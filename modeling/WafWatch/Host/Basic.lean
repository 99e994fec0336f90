import WafWatch.Host.IoError
import WafWatch.Net.Address
import WafWatch.Time.Span

/-!
This module holds what the program asks of the machine it runs on: to look at a file, to run a command
and to listen at an address. Every step of looking at a file may fail on its own.
-/

namespace WafWatch

/--
What is known of a file before it is opened.
-/
structure FileStatus where
  /-- Two files that exist at one time have different numbers. -/
  inode : Nat
  size : Nat
  deriving DecidableEq, Repr, Inhabited

/--
What the four steps of reading a file meet.
-/
structure FileView where
  status : Except IoError FileStatus
  opening : Except IoError Unit := .ok ()
  seeking : Except IoError Unit := .ok ()
  /-- The octets of the whole file. -/
  reading : Except IoError (List UInt8)

/--
A file that cannot even be looked up.
-/
def FileView.ofError (error : IoError) : FileView where
  status := .error error
  opening := .error error
  reading := .error error

/--
How a command ended.
-/
inductive ExitStatus where
  | code (n : Nat)
  /-- The command was ended by a signal. -/
  | signal (n : Nat)
  deriving DecidableEq, Repr, Inhabited

/--
What came of a command.
-/
inductive CommandResult where
  | notStarted (error : IoError)
  | timedOut
  | finished (status : ExitStatus) (output errors : List UInt8)
  deriving DecidableEq, Repr, Inhabited

/--
A machine: its files by path, what comes of a program with arguments within some time, and the address
at which it listens when it is asked to listen at an address.
-/
structure Host where
  file : String → FileView
  run : String → List String → Time.Span → CommandResult
  listen : Net.SocketAddress → Except IoError Net.SocketAddress

end WafWatch
