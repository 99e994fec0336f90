import WafWatch.Host.Basic
import WafWatch.Ingest.Error
import WafWatch.Source.Lines

/-!
This module contains the following of a log file. Every poll reads what the file has grown by since
the last one, and starts again from the beginning if the file has been replaced or has shrunk.
-/

namespace WafWatch

/--
A file that is followed: how far it has been read, which file it was, and the line that has begun.
-/
structure FileTail where
  path : String
  limit : Nat
  offset : Nat := 0
  inode : Option Nat := none
  carry : LineCarry := {}
  deriving DecidableEq, Repr, Inhabited

namespace FileTail

def maxRead : Nat := 8 * 1024 * 1024

def name (tail : FileTail) : String :=
  s!"file:{tail.path}"

def restart (tail : FileTail) : FileTail :=
  { tail with offset := 0, carry := {} }

/--
The file is another one than at the last poll, or has become shorter than what was read of it.
-/
def isStale (tail : FileTail) (status : FileStatus) : Bool :=
  tail.inode.any (· != status.inode) || status.size < tail.offset

def notice (tail : FileTail) (status : FileStatus) : FileTail :=
  { if tail.isStale status then tail.restart else tail with inode := some status.inode }

def unavailable (tail : FileTail) (error : IoError) : IngestError :=
  .unavailable "file" s!"{tail.path}: {error.message}"

/--
Read on in a file with the given octets.
-/
def readOn (tail : FileTail) (content : List UInt8) : List String × FileTail :=
  let chunk := (content.drop tail.offset).take maxRead
  let (lines, carry) := tail.carry.split tail.limit chunk
  (lines, { tail with offset := tail.offset + chunk.length, carry })

/--
The lines that have been completed since the last poll. If a step fails, the next poll reads what this
one would have read.
-/
def poll (tail : FileTail) (view : FileView) : Except IngestError (List String) × FileTail :=
  match view.status with
  | .error error => (.error (tail.unavailable error), tail)
  | .ok status =>
    let tail := tail.notice status
    if status.size = tail.offset then (.ok [], tail)
    else
      match view.opening, view.seeking, view.reading with
      | .error error, _, _ => (.error (tail.unavailable error), tail)
      | _, .error error, _ => (.error (.io error), tail)
      | _, _, .error error => (.error (.io error), tail)
      | .ok _, .ok _, .ok content =>
        let (lines, tail) := tail.readOn content
        (.ok lines, tail)

end FileTail

end WafWatch
