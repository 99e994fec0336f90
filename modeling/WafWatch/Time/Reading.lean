import WafWatch.Text.Blank
import WafWatch.Text.Scan
import WafWatch.Time.Timestamp

/-!
This module contains the reading of written instants: the two forms that log lines carry and the form
that records carry. Numbers are ASCII digits; the blanks between the parts of a record's instant are
those of running text.
-/

namespace WafWatch.Time

open WafWatch.Text

/--
Read up to `most` digits, but at least one.
-/
def readDigits? (most : Nat) (s : List Char) : Option (List Char × List Char) :=
  let digits := (s.take most).takeWhile isAsciiDigit
  if digits.isEmpty then none else some (digits, s.drop digits.length)

def readTwo? : List Char → Option (Nat × List Char)
  | a :: b :: rest =>
    if isAsciiDigit a && isAsciiDigit b then some (ofDigits [a, b], rest) else none
  | _ => none

def readFour? (s : List Char) : Option (Nat × List Char) := do
  let (high, s) ← readTwo? s
  let (low, s) ← readTwo? s
  pure (high * 100 + low, s)

def readClock? (s : List Char) : Option ((Nat × Nat × Nat) × List Char) := do
  let (hour, s) ← readTwo? s
  let s ← afterPrefix? [':'] s
  let (minute, s) ← readTwo? s
  let s ← afterPrefix? [':'] s
  let (second, s) ← readTwo? s
  pure ((hour, minute, second), s)

def Timestamp.checkFields? (fields : Timestamp.Fields) : Option Timestamp :=
  if fields.exists then some (Timestamp.ofFields fields) else none

/--
Read `YYYY/MM/DD hh:mm:ss` as an instant in UTC. Nothing may follow.
-/
def readSlashed? (s : List Char) : Option Timestamp := do
  let (year, s) ← readFour? s
  let s ← afterPrefix? ['/'] s
  let (month, s) ← readTwo? s
  let s ← afterPrefix? ['/'] s
  let (day, s) ← readTwo? s
  let s ← afterPrefix? [' '] s
  let ((hour, minute, second), s) ← readClock? s
  if s.isEmpty then Timestamp.checkFields? ⟨⟨year, month, day⟩, hour, minute, second, 0⟩ else none

def monthNames : List String :=
  ["jan", "feb", "mar", "apr", "may", "jun", "jul", "aug", "sep", "oct", "nov", "dec"]

def readMonthName? (s : List Char) : Option (Nat × List Char) :=
  let name := (s.take 3).map Char.toLower
  match monthNames.findIdx? (·.toList == name) with
  | some index => some (index + 1, s.drop 3)
  | none => none

/--
The offset of a clock in seconds: whole hours below 24 and minutes below 60, ahead or behind.
-/
def clockOffset? (ahead : Bool) (hours minutes : Nat) : Option Int :=
  let seconds : Nat := hours * 3600 + minutes * 60
  if hours ≤ 23 && minutes ≤ 59 then some (if ahead then seconds else -seconds) else none

def readSign? : List Char → Option (Bool × List Char)
  | '+' :: rest => some (true, rest)
  | '-' :: rest => some (false, rest)
  | _ => none

/--
Read `DD/Mon/YYYY:hh:mm:ss +hhmm` as the instant that a clock with the offset shows so. Nothing may
follow.
-/
def readOffsetClock? (s : List Char) : Option Timestamp := do
  let (day, s) ← readTwo? s
  let s ← afterPrefix? ['/'] s
  let (month, s) ← readMonthName? s
  let s ← afterPrefix? ['/'] s
  let (year, s) ← readFour? s
  let s ← afterPrefix? [':'] s
  let ((hour, minute, second), s) ← readClock? s
  let s ← afterPrefix? [' '] s
  let (ahead, s) ← readSign? s
  let (hours, s) ← readTwo? s
  let (minutes, s) ← readTwo? s
  let offset ← clockOffset? ahead hours minutes
  let local' ← Timestamp.checkFields? ⟨⟨year, month, day⟩, hour, minute, second, 0⟩
  if s.isEmpty then some (local'.behind offset) else none

/--
Read a number of one or two digits after optional blanks.
-/
def readSmall? (s : List Char) : Option (Nat × List Char) := do
  let (digits, s) ← readDigits? 2 (s.dropWhile isBlank)
  pure (ofDigits digits, s)

/--
Read a year after optional blanks: at most four digits, or any number of digits after a sign.
-/
def readYear? (s : List Char) : Option (Int × List Char) :=
  match s.dropWhile isBlank with
  | '-' :: rest => do
    let (digits, s) ← readDigits? rest.length rest
    pure (-(ofDigits digits : Int), s)
  | '+' :: rest => do
    let (digits, s) ← readDigits? rest.length rest
    pure (ofDigits digits, s)
  | rest => do
    let (digits, s) ← readDigits? 4 rest
    pure (ofDigits digits, s)

def readMark? (c : Char) (s : List Char) : Option (List Char) :=
  afterPrefix? [c] (s.dropWhile isBlank)

/--
Read the fraction of a second, if there is one, as nanoseconds. Digits after the ninth are dropped.
-/
def readFraction? : List Char → Option (Nat × List Char)
  | '.' :: rest => do
    let (digits, s) ← readDigits? 9 rest
    pure (ofDigits digits * Nat.pow 10 (9 - digits.length), s.dropWhile isAsciiDigit)
  | s => some (0, s)

/--
Read the offset of a clock after a record's time: `Z`, `UTC` in any letter case, or a sign, two
digits of hours, any colons and blanks, and two digits of minutes.
-/
def readZone? (s : List Char) : Option (Int × List Char) :=
  if (s.take 3).map Char.toLower == ['u', 't', 'c'] then some (0, s.drop 3)
  else
    match s with
    | 'Z' :: rest | 'z' :: rest => some (0, rest)
    | sign :: rest => do
      let ahead ← if sign == '+' then some true
        else if sign == '-' || sign == '−' then some false
        else none
      let (hours, s) ← readTwo? rest
      let (minutes, s) ← readTwo? (s.dropWhile fun c => c == ':' || isBlank c)
      let offset ← clockOffset? ahead hours minutes
      pure (offset, s)
    | [] => none

/--
Read the instant of a record: a date, one of `T`, `t` and a space, a time of day with an optional
fraction, and the offset of the clock. Blanks may stand around the parts.
-/
def readRecord? (s : List Char) : Option Timestamp := do
  let (year, s) ← readYear? s
  let s ← readMark? '-' s
  let (month, s) ← readSmall? s
  let s ← readMark? '-' s
  let (day, s) ← readSmall? s
  let s ← match s with
    | 't' :: rest | 'T' :: rest | ' ' :: rest => some rest
    | _ => none
  let (hour, s) ← readSmall? s
  let s ← readMark? ':' s
  let (minute, s) ← readSmall? s
  let s ← readMark? ':' s
  let (second, s) ← readSmall? s
  let (nanos, s) ← readFraction? s
  let (offset, s) ← readZone? (s.dropWhile isBlank)
  let shown ← Timestamp.checkFields? ⟨⟨year, month, day⟩, hour, minute, second, nanos⟩
  let t := shown.behind offset
  if (s.dropWhile isBlank).isEmpty && shown.inRange && t.inRange then some t else none

end WafWatch.Time
