import WafWatch.Json.Decoding
import WafWatch.Text.Blank
import WafWatch.Text.Lowercase

/-!
This module holds the severity of an event on the eight-step scale of system logs, and its readings.
-/

namespace WafWatch

open WafWatch.Text

/--
The severity of an event, the most severe first.
-/
inductive Severity where
  | emergency
  | alert
  | critical
  | error
  | warning
  | notice
  | info
  | debug
  /-- The log line names no severity, or none that is known. -/
  | unknown
  deriving DecidableEq, Repr, Inhabited

namespace Severity

def all : List Severity :=
  [.emergency, .alert, .critical, .error, .warning, .notice, .info, .debug, .unknown]

def ofCode : Nat → Severity
  | 0 => .emergency
  | 1 => .alert
  | 2 => .critical
  | 3 => .error
  | 4 => .warning
  | 5 => .notice
  | 6 => .info
  | 7 => .debug
  | _ => .unknown

def display : Severity → String
  | .emergency => "Emergency"
  | .alert => "Alert"
  | .critical => "Critical"
  | .error => "Error"
  | .warning => "Warning"
  | .notice => "Notice"
  | .info => "Info"
  | .debug => "Debug"
  | .unknown => "Unknown"

def name : Severity → String
  | .emergency => "EMERGENCY"
  | .alert => "ALERT"
  | .critical => "CRITICAL"
  | .error => "ERROR"
  | .warning => "WARNING"
  | .notice => "NOTICE"
  | .info => "INFO"
  | .debug => "DEBUG"
  | .unknown => "UNKNOWN"

def ofWord (word : String) : Severity :=
  match word with
  | "emergency" | "emerg" => .emergency
  | "alert" => .alert
  | "critical" | "crit" => .critical
  | "error" | "err" => .error
  | "warning" | "warn" => .warning
  | "notice" => .notice
  | "info" | "informational" => .info
  | "debug" => .debug
  | _ => .unknown

/--
Read the severity field of a log line: a numeric code of at most 255, or a word in any letter case,
with blanks around it.
-/
def read (s : List Char) : Severity :=
  let s := trim s
  match readNumeral? 255 s with
  | some code => ofCode code
  | none => ofWord (String.ofList (lower s))

def decode (node : Json.Node) : Json.Decoded Severity := do
  let word ← node.variant (all.map name)
  pure ((all.find? (·.name == word)).getD .unknown)

end Severity

end WafWatch
