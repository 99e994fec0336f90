import WafWatch.Event.Basic
import WafWatch.Text.Scan
import WafWatch.Time.Reading

/-!
This module contains the reading of log lines. A line is an event if it carries two marks; every field
of the event is then taken from the first place of the line that has its form, and stays empty if no
place has.
-/

namespace WafWatch.AuditLine

open WafWatch.Text

def deniedMarker : String := "Access denied"

/--
The two texts that mark the line of a blocked request.
-/
def markers : List String :=
  ["ModSecurity", deniedMarker]

/--
The status that a blocked request is answered with.
-/
def forbiddenStatus : String := "403"

def isCandidate (line : List Char) : Bool :=
  markers.all fun marker => hasPart marker.toList line

def tellsBlocked (line : List Char) : Bool :=
  hasPart deniedMarker.toList line || hasPart forbiddenStatus.toList line

/-! ### Forms -/

def quoted? (s : List Char) : Option (List Char × List Char) :=
  match s.dropWhile (· != '"') with
  | _ :: rest => some (s.takeWhile (· != '"'), rest)
  | [] => none

/--
The content of a field in square brackets such as `[id "942100"]`.
-/
def bracketField? (name : String) (s : List Char) : Option (List Char) := do
  let s ← afterPrefix? ('[' :: name.toList ++ [' ', '"']) s
  let (content, s) ← quoted? s
  let _ ← afterPrefix? [']'] s
  pure content

/--
The content of a request field such as `request: "GET / HTTP/1.1"`.
-/
def requestField? (s : List Char) : Option (List Char) := do
  let s ← afterPrefix? "request:".toList s
  let s ← afterPrefix? ['"'] (s.dropWhile isBlank)
  let (content, _) ← quoted? s
  pure content

/--
The content of a user agent field such as `"User-Agent: curl/8.4.0"`, if it is not empty.
-/
def userAgentField? (s : List Char) : Option (List Char) := do
  let s ← afterPrefix? "\"User-Agent: ".toList s
  let (content, _) ← quoted? s
  if content.isEmpty then none else some content

/--
The one to three digits at the start of a text, in any script.
-/
def addressPart? (s : List Char) : Option (List Char × List Char) :=
  let digits := (s.take 3).takeWhile isDecimal
  if digits.isEmpty then none else some (digits, s.drop digits.length)

/--
The address of a client field such as `client: 192.0.2.1`: four groups of one to three digits.
-/
def clientField? (s : List Char) : Option (List Char) := do
  let s ← afterPrefix? "client:".toList s
  let (a, s) ← addressPart? (s.dropWhile isBlank)
  let s ← afterPrefix? ['.'] s
  let (b, s) ← addressPart? s
  let s ← afterPrefix? ['.'] s
  let (c, s) ← addressPart? s
  let s ← afterPrefix? ['.'] s
  let (d, _) ← addressPart? s
  pure (a ++ '.' :: b ++ '.' :: c ++ '.' :: d)

/--
The characters agree in kind with a form, in which `d` stands for a digit of any script, `a` for an
ASCII letter, `s` for a sign, and everything else for itself.
-/
def hasForm : (form s : List Char) → Bool
  | [], _ => true
  | _ :: _, [] => false
  | f :: form, c :: s =>
    (match f with
      | 'd' => isDecimal c
      | 'a' => c.isAlpha
      | 's' => c == '+' || c == '-'
      | _ => f == c) && hasForm form s

def leadingForm : List Char :=
  "dddd/dd/dd dd:dd:dd".toList

def bracketedForm : List Char :=
  "[dd/aaa/dddd:dd:dd:dd sdddd]".toList

def bracketedTime? (s : List Char) : Option (List Char) :=
  if hasForm bracketedForm s then some ((s.take (bracketedForm.length - 1)).drop 1) else none

/--
The time of a line: the one at its start if it has the form of a time and exists; otherwise the first
one in square brackets, if it exists.
-/
def time? (line : List Char) : Option Time.Timestamp :=
  let leading :=
    if hasForm leadingForm line then Time.readSlashed? (line.take leadingForm.length) else none
  match leading with
  | some t => some t
  | none => (firstMatch? bracketedTime? line).bind Time.readOffsetClock?

/-! ### Events -/

def field (content : Option (List Char)) : String :=
  String.ofList (content.getD [])

def requestParts (request : List Char) : List Char × List Char :=
  match firstWord request with
  | none => ([], [])
  | some (method, rest) =>
    match firstWord rest with
    | none => (method, [])
    | some (target, _) => (method, target)

def toEvent (stamp : Stamp) (line : List Char) : SecurityEvent :=
  let (method, target) := requestParts ((firstMatch? requestField? line).getD [])
  { id := stamp.id
    timestamp := (time? line).getD stamp.now
    clientIp := field (firstMatch? clientField? line)
    method := String.ofList method
    url := String.ofList target
    userAgent := field (firstMatch? userAgentField? line)
    attackType := ""
    ruleId := field (firstMatch? (bracketField? "id") line)
    message := field (firstMatch? (bracketField? "msg") line)
    severity :=
      match firstMatch? (bracketField? "severity") line with
      | some content => Severity.read content
      | none => .unknown
    blocked := tellsBlocked line
    rawLog := String.ofList line }

/--
The number of octets up to which a line is read if nothing else is asked for.
-/
def defaultLimit : Nat := 64 * 1024

def parse (limit : Nat) (stamp : Stamp) (line : String) : Option SecurityEvent :=
  if limit < line.utf8ByteSize then none
  else
    let chars := line.toList
    if isCandidate chars then some (toEvent stamp chars) else none

def formatName : String := "modsecurity"

end WafWatch.AuditLine
