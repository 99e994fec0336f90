import WafWatch.Number.Double
import WafWatch.Time.Calendar
import WafWatch.Time.Reading
import WafWatch.Toml.Value

/-!
This module contains the reading of the values of TOML that are written without quotes and brackets:
truth values, numbers, dates and times of day.
-/

namespace WafWatch.Toml

open WafWatch.Text

/-! ### Integers -/

/--
The digits of a text, where single underscores may stand between digits.
-/
def digits? (isDigit : Char → Bool) : List Char → Option (List Char)
  | [] => none
  | [c] => if isDigit c then some [c] else none
  | c :: '_' :: rest => if isDigit c then (digits? isDigit rest).map (c :: ·) else none
  | c :: rest => if isDigit c then (digits? isDigit rest).map (c :: ·) else none

/--
The digits of a decimal number before its point, which have no zero in front.
-/
def whole? (s : List Char) : Option (List Char) :=
  match digits? isAsciiDigit s with
  | some ('0' :: _ :: _) => none
  | digits => digits

/--
Split a text into whether a minus sign is in front and what follows the sign.
-/
def splitSign : List Char → Bool × List Char
  | '+' :: rest => (false, rest)
  | '-' :: rest => (true, rest)
  | s => (false, s)

def readRadix? : List Char → Option Nat
  | '0' :: 'x' :: rest => (digits? isHexDigit rest).map (ofDigitsIn 16)
  | '0' :: 'o' :: rest => (digits? (fun c => '0' ≤ c && c ≤ '7') rest).map (ofDigitsIn 8)
  | '0' :: 'b' :: rest => (digits? (fun c => c == '0' || c == '1') rest).map (ofDigitsIn 2)
  | _ => none

/--
The integers that can be held: those of 128 bits with or without a sign.
-/
def isHeld (n : Int) : Bool :=
  -(Nat.pow 2 127 : Int) ≤ n && n < (Nat.pow 2 128 : Int)

def readInteger? (s : List Char) : Option Int :=
  let value := match readRadix? s with
    | some n => some (n : Int)
    | none =>
      let (negative, rest) := splitSign s
      (whole? rest).map fun digits =>
        if negative then -(ofDigits digits : Int) else (ofDigits digits : Int)
  value.filter isHeld

/-! ### Floating-point numbers -/

/--
A decimal number does not exceed the greatest floating-point number. It is written as digits, of which
the last ones are after the point if `places` is positive, and an exponent.
-/
def isFinite (digits : List Char) (places : Nat) (exponent : Int) : Bool :=
  let significant := digits.dropWhile (· == '0')
  let magnitude := significant.length + exponent - places
  if significant.isEmpty || magnitude ≤ 308 then true
  else if 309 < magnitude then false
  else
    let scale := exponent - places
    let (num, den) := (ofDigits significant * Nat.pow 10 scale.toNat, Nat.pow 10 (-scale).toNat)
    (Number.Double.ofRatio? num den).isSome

def specialFloats : List (List Char) :=
  ["nan".toList, "inf".toList]

/--
Split a text at the first character of a kind, which is left out.
-/
def splitAt? (isMark : Char → Bool) (s : List Char) : List Char × Option (List Char) :=
  match s.dropWhile (!isMark ·) with
  | [] => (s, none)
  | _ :: rest => (s.takeWhile (!isMark ·), some rest)

def isFloat (s : List Char) : Bool :=
  let (_, unsigned) := splitSign s
  if specialFloats.contains unsigned then true
  else
    let (significand, exponent) := splitAt? (fun c => c == 'e' || c == 'E') unsigned
    let (whole, fraction) := splitAt? (· == '.') significand
    if exponent.isNone && fraction.isNone then false
    else
      let read : Option Bool := do
        let whole ← whole? whole
        let fraction ← match fraction with
          | some fraction => digits? isAsciiDigit fraction
          | none => some []
        let exponent ← match exponent with
          | some exponent =>
            let (negative, rest) := splitSign exponent
            (digits? isAsciiDigit rest).map fun digits =>
              if negative then -(ofDigits digits : Int) else (ofDigits digits : Int)
          | none => some 0
        pure (isFinite (whole ++ fraction) fraction.length exponent)
      read.getD false

/-! ### Dates and times of day -/

def afterDate? (s : List Char) : Option (List Char) := do
  let (year, s) ← Time.readFour? s
  let (month, s) ← Time.readTwo? (← afterPrefix? ['-'] s)
  let (day, s) ← Time.readTwo? (← afterPrefix? ['-'] s)
  if (⟨year, month, day⟩ : Time.Date).exists then some s else none

def afterSeconds? (s : List Char) : Option (List Char) := do
  let (second, s) ← Time.readTwo? s
  if 60 < second then none
  else
    match s with
    | '.' :: c :: rest => if isAsciiDigit c then some (rest.dropWhile isAsciiDigit) else none
    | _ => some s

def afterClock? (s : List Char) : Option (List Char) := do
  let (hour, s) ← Time.readTwo? s
  let (minute, s) ← Time.readTwo? (← afterPrefix? [':'] s)
  if 23 < hour || 59 < minute then none
  else
    match s with
    | ':' :: rest => afterSeconds? rest
    | _ => some s

def isZone (s : List Char) : Bool :=
  match s with
  | ['Z'] => true
  | ['z'] => true
  | c :: rest =>
    if c == '+' || c == '-' then
      let read : Option Bool := do
        let (hour, rest) ← Time.readTwo? rest
        let (minute, rest) ← Time.readTwo? (← afterPrefix? [':'] rest)
        pure (hour ≤ 23 && minute ≤ 59 && rest.isEmpty)
      read.getD false
    else false
  | [] => false

def isDateMark (c : Char) : Bool :=
  c == 'T' || c == 't' || c == ' '

def isMoment (s : List Char) : Bool :=
  match afterDate? s with
  | some [] => true
  | some (c :: rest) =>
    isDateMark c &&
      match afterClock? rest with
      | some [] => true
      | some zone => isZone zone
      | none => false
  | none => afterClock? s == some []

/-! ### All bare values -/

/--
The value of a text that stands for itself.
-/
def ofBare? (s : List Char) : Option Value :=
  if s == "true".toList then some (.bool true)
  else if s == "false".toList then some (.bool false)
  else
    match readInteger? s with
    | some n => some (.integer n)
    | none =>
      if isFloat s then some (.float s)
      else if isMoment s then some (.moment s)
      else none

def endsBare (c : Char) : Bool :=
  c == ' ' || c == '\t' || c == '\n' || c == '\r' || c == ',' || c == ']' || c == '\x7d' || c == '#'

/--
The text of a value without quotes, and what follows it. A blank may stand between a date and a time of
day.
-/
def takeBare (s : List Char) : List Char × List Char :=
  let first := s.takeWhile (!endsBare ·)
  match afterDate? first, s.drop first.length with
  | some [], ' ' :: c :: rest =>
    if isAsciiDigit c then
      let clock := (c :: rest).takeWhile (!endsBare ·)
      (first ++ ' ' :: clock, (c :: rest).drop clock.length)
    else (first, ' ' :: c :: rest)
  | _, rest => (first, rest)

end WafWatch.Toml
