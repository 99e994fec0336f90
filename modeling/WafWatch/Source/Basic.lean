import WafWatch.Source.CommandTail
import WafWatch.Source.Demo
import WafWatch.Source.FileTail

/-!
This module holds the sources of log lines. A source is polled again and again; every poll returns the
lines that are new since the last one, or fails.
-/

namespace WafWatch

/--
A source of log lines.
-/
inductive LogSource where
  | file (tail : FileTail)
  | command (tail : CommandTail)
  /-- The demonstration lines, unless they have been served. -/
  | demo (served : Bool)
  /-- Given answers to the polls to come, and no lines after them. -/
  | scripted (name : String) (answers : List (Except IngestError (List String)))
  /-- One source, and another one for the polls that fail. -/
  | fallback (primary secondary : LogSource)
  deriving Inhabited

namespace LogSource

def name : LogSource → String
  | .file tail => tail.name
  | .command tail => tail.name
  | .demo _ => "demo"
  | .scripted name _ => name
  | .fallback primary secondary => primary.name ++ "|" ++ secondary.name

def poll (host : Host) : LogSource → Except IngestError (List String) × LogSource
  | .file tail =>
    let (answer, tail) := tail.poll (host.file tail.path)
    (answer, .file tail)
  | .command tail => (tail.poll host, .command tail)
  | .demo served => (.ok (if served then [] else demoLines), .demo true)
  | .scripted name [] => (.ok [], .scripted name [])
  | .scripted name (answer :: answers) => (answer, .scripted name answers)
  | .fallback primary secondary =>
    match primary.poll host with
    | (.ok lines, primary) => (.ok lines, .fallback primary secondary)
    | (.error _, primary) =>
      let (answer, secondary) := secondary.poll host
      (answer, .fallback primary secondary)

end LogSource

end WafWatch
