import WafWatch.Host.Basic

/-!
This module contains a disk: files with their octets, and the paths under which they are found. A file
that is moved stays the same file.
-/

namespace WafWatch.Simulation

/--
A disk. The number of a new file has not been used before.
-/
structure Disk where
  /-- The octets of each file by its number. -/
  files : List (Nat × List UInt8) := []
  /-- The number of the file at each path. -/
  paths : List (String × Nat) := []
  /-- The paths at which there is a directory. -/
  directories : List String := []
  nextInode : Nat := 1
  deriving Inhabited

namespace Disk

/--
A disk with the directories and the device files that any machine has.
-/
def bare : Disk where
  files := [(1, [])]
  paths := [("/dev/null", 1)]
  directories := ["/", "/bin", "/dev", "/etc", "/home", "/lib", "/opt", "/proc", "/root", "/run",
    "/sbin", "/sys", "/tmp", "/usr", "/usr/bin", "/usr/lib", "/var", "/var/log"]
  nextInode := 2

/-! ### Paths -/

/--
What there is at a path.
-/
inductive Place where
  | directory (key : String)
  | file (inode : Nat)
  deriving DecidableEq, Repr, Inhabited

/--
The path of a place that is reached by some names.
-/
def keyOf (absolute : Bool) (names : List String) : String :=
  (if absolute then "/" else "") ++ "/".intercalate names

/--
Follow the rest of a path from the directory that is reached by some names.
-/
def follow (disk : Disk) (absolute : Bool) (names : List String) :
    List String → Except IoError Place
  | [] => .ok (.directory (keyOf absolute names))
  | name :: rest =>
    if name = "" ∨ name = "." then disk.follow absolute names rest
    else if name = ".." then disk.follow absolute names.dropLast rest
    else
      let key := keyOf absolute (names ++ [name])
      if disk.directories.contains key then disk.follow absolute (names ++ [name]) rest
      else
        match disk.paths.lookup key, rest with
        | some inode, [] => .ok (.file inode)
        | some _, _ => .error .notDirectory
        | none, _ => .error .notFound

def find (disk : Disk) (path : String) : Except IoError Place :=
  if path.toList.contains '\x00' then .error .badPath
  else if path.isEmpty then .error .notFound
  else disk.follow (path.toList.head? == some '/') [] (path.splitOn "/")

/-! ### Looking at files -/

/--
The size that a directory is said to have. Those that the system makes up have none.
-/
def directorySize (key : String) : Nat :=
  if key = "/proc" ∨ key = "/sys" then 0 else 4096

/--
What the steps of reading the file at a path meet.
-/
def view (disk : Disk) (path : String) : FileView :=
  match disk.find path with
  | .error error => .ofError error
  | .ok (.directory key) =>
    { status := .ok ⟨0, directorySize key⟩, reading := .error .isDirectory }
  | .ok (.file inode) =>
    let octets := (disk.files.lookup inode).getD []
    { status := .ok ⟨inode, octets.length⟩, reading := .ok octets }

/-! ### Changing files -/

def put {κ α : Type} [BEq κ] (key : κ) (a : α) (entries : List (κ × α)) : List (κ × α) :=
  (key, a) :: entries.filter (!·.1 == key)

/--
Give the file at a path other octets, which may depend on the ones it has. A file that does not exist
is made.
-/
def change (disk : Disk) (path : String) (f : List UInt8 → List UInt8) : Disk :=
  match disk.paths.lookup path with
  | some inode =>
    { disk with files := put inode (f ((disk.files.lookup inode).getD [])) disk.files }
  | none =>
    { disk with
      files := (disk.nextInode, f []) :: disk.files
      paths := (path, disk.nextInode) :: disk.paths
      nextInode := disk.nextInode + 1 }

def append (disk : Disk) (path : String) (octets : List UInt8) : Disk :=
  disk.change path (· ++ octets)

def overwrite (disk : Disk) (path : String) (octets : List UInt8) : Disk :=
  disk.change path fun _ => octets

def rename (disk : Disk) (path target : String) : Disk :=
  match disk.paths.lookup path with
  | some inode =>
    { disk with paths := put target inode (disk.paths.filter (!·.1 == path)) }
  | none => disk

end Disk

end WafWatch.Simulation
