import Std.Time.DateTime.Timestamp
import WafWatch.Daemon.Launch
import WafWatch.Event.Identifier

/-!
This module contains the program: it looks at the machine, has the rest of the library decide what to do,
and prints. The log source is polled on the clock of the machine.
-/

namespace WafWatch

def ioError : IO.Error → IoError
  | .noFileOrDirectory .. => .notFound
  | .permissionDenied .. => .permissionDenied
  | .inappropriateType .. => .isDirectory
  | error => .other (toString error)

def lookAt (path : String) : IO FileView := do
  match ← (IO.FS.readBinFile path).toBaseIO with
  | .ok octets => return { status := .ok ⟨0, octets.size⟩, reading := .ok octets.data.toList }
  | .error error => return .ofError (ioError error)

/--
The machine as it is now, as far as the files at some paths are concerned. It runs no commands, and its
listeners get the addresses that they ask for.
-/
def machine (paths : List String) : IO Host := do
  let views ← paths.mapM fun path => return (path, ← lookAt path)
  return {
    file := fun path => (views.lookup path).getD (.ofError .notFound)
    run := fun _ _ _ => .notStarted (.other "operation not supported on this platform")
    listen := .ok }

def newStamps : IO StampSupply := do
  let now := (← Std.Time.Timestamp.now).val
  let random ← IO.getRandomBytes 16
  let seed := random.data.foldl (fun seed octet => 256 * seed + octet.toNat) 0
  return .ofSeed seed ⟨now.second.val, now.nano.val.toNat⟩

def environment : IO Environment := do
  let values ← overrideNames.mapM fun name => return (name, ← IO.getEnv name)
  return values.filterMap fun (name, value) => value.map fun value => (name, value.toUTF8.data.toList)

/--
The longest time in milliseconds for which the program sleeps.
-/
def longestSleep : Nat := 1000

/--
Let a daemon work until the program is ended from outside.
-/
partial def serve (daemon : Daemon) : IO Unit := do
  let host ← machine [daemon.settings.ingest.logFile]
  let daemon := (daemon.withStamps (← newStamps)).settle host
  let span := max 1 (min longestSleep (daemon.timeLeft?.getD longestSleep))
  IO.sleep span.toUInt32
  serve (daemon.pass span)

def finish (ending : Ending) : IO UInt32 := do
  IO.print ending.output
  IO.eprint ending.errors
  return ending.code.toUInt32

/--
What the program says about a document that does not give settings.
-/
def unreadable (_ : String) : String :=
  "the document does not give settings"

def runProgram (arguments : List String) : IO UInt32 := do
  let paths := match Invocation.parse arguments with
    | .ok (.run options) => options.config.toList
    | _ => []
  let host ← machine paths
  match Launch.ofArguments arguments unreadable host (← environment) (← newStamps) with
  | .refused _ => finish { code := usageCode, errors := usageText ++ "\n" }
  | .ended ending => finish ending
  | .run daemon =>
    match daemon.launch host with
    | (.error error, _) => finish (.ofResult (.error error))
    | (.ok (), daemon) =>
      serve daemon
      finish (.ofResult daemon.shutdown.1)

end WafWatch

def main (arguments : List String) : IO UInt32 :=
  WafWatch.runProgram arguments
