/-!
This module contains the reading and writing of numerals in ASCII digits.
-/

namespace WafWatch.Text

def isAsciiDigit (c : Char) : Bool :=
  '0' ≤ c && c ≤ '9'

def digitValue (c : Char) : Nat :=
  c.toNat - '0'.toNat

/--
The number that a list of ASCII digits writes, the most significant digit first.
-/
def ofDigits (digits : List Char) : Nat :=
  digits.foldl (fun value c => value * 10 + digitValue c) 0

def hexValue? (c : Char) : Option Nat :=
  if isAsciiDigit c then some (digitValue c)
  else if 'a' ≤ c && c ≤ 'f' then some (c.toNat - 'a'.toNat + 10)
  else if 'A' ≤ c && c ≤ 'F' then some (c.toNat - 'A'.toNat + 10)
  else none

def isHexDigit (c : Char) : Bool :=
  (hexValue? c).isSome

/--
The number that a list of digits writes to a base of at most sixteen, the most significant digit
first.
-/
def ofDigitsIn (base : Nat) (digits : List Char) : Nat :=
  digits.foldl (fun value c => value * base + (hexValue? c).getD 0) 0

/--
Read a numeral of at least one digit, with or without a plus sign, that does not exceed `limit`.
-/
def readNumeral? (limit : Nat) (s : List Char) : Option Nat :=
  let digits := match s with
    | '+' :: rest => rest
    | _ => s
  if digits.isEmpty || !digits.all isAsciiDigit then none
  else if ofDigits digits ≤ limit then some (ofDigits digits)
  else none

def showNat (n : Nat) : List Char :=
  Nat.toDigits 10 n

def showPadded (width : Nat) (n : Nat) : List Char :=
  let digits := showNat n
  List.replicate (width - digits.length) '0' ++ digits

def showInt (n : Int) : List Char :=
  if n < 0 then '-' :: showNat n.natAbs else showNat n.natAbs

end WafWatch.Text
