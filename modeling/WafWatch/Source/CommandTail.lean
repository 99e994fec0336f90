import WafWatch.Host.Signal
import WafWatch.Ingest.Error
import WafWatch.Source.Lines
import WafWatch.Text.Blank

/-!
This module contains the reading of log lines from the output of a command, which is run at every
poll.
-/

namespace WafWatch

/--
A command whose output is read.
-/
structure CommandTail where
  program : String
  arguments : List String
  timeout : Time.Span
  deriving DecidableEq, Repr, Inhabited

namespace CommandTail

/--
The tail of a command, of which the first word has to name a program.
-/
def ofCommand (command : List String) (timeout : Time.Span) : Except IngestError CommandTail :=
  match command with
  | program :: arguments =>
    if program.isEmpty then .error unnamed else .ok { program, arguments, timeout }
  | [] => .error unnamed
where
  unnamed : IngestError := .setting "command" "command must name a program"

def name (tail : CommandTail) : String :=
  s!"command:{tail.program}"

def maxComplaint : Nat := 256

def textLines (s : List Char) : List (List Char) :=
  go [] [] s
where
  go (lines : List (List Char)) (line : List Char) : List Char → List (List Char)
    | [] => (line.reverse :: lines).reverse
    | c :: rest => if c == '\n' then go (line.reverse :: lines) [] rest else go lines (c :: line) rest

/--
The lines of a command's output that are not empty, without the carriage returns at their ends.
-/
def outputLines (output : List UInt8) : List String :=
  (((textLines (Text.decodeLossy output)).map trimReturns).filter (!·.isEmpty)).map String.ofList

/--
The beginning of what a command wrote about its failure.
-/
def complaint (errors : List UInt8) : String :=
  String.ofList ((Text.trim (Text.decodeLossy errors)).take maxComplaint)

def lines (tail : CommandTail) : CommandResult → Except IngestError (List String)
  | .timedOut =>
    .error (unavailable s!"{tail.program} timed out after {String.ofList tail.timeout.render}")
  | .notStarted error =>
    .error (unavailable s!"failed to run {tail.program}: {error.message}")
  | .finished status output errors =>
    if status.isSuccess then .ok (outputLines output)
    else .error (unavailable s!"{tail.program} exited with {status.display}: {complaint errors}")
where
  unavailable (reason : String) : IngestError := .unavailable "command" reason

def poll (tail : CommandTail) (host : Host) : Except IngestError (List String) :=
  tail.lines (host.run tail.program tail.arguments tail.timeout)

end CommandTail

end WafWatch
