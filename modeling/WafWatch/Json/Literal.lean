import WafWatch.Number.Double

/-!
This module contains the meaning of JSON number literals. A literal without fraction and exponent is
an integer if it fits 64 bits; every other literal is a floating point number, read from at most as
many leading digits as fit 64 bits.
-/

namespace WafWatch.Json

/--
A number literal: sign, digits, digits after the point if there is one, and the exponent if there is
one, with its sign.
-/
structure Literal where
  negative : Bool
  whole : List Char
  fraction : Option (List Char)
  exponent : Option (Bool × List Char)
  deriving DecidableEq, Repr, Inhabited

/--
What a number literal means.
-/
inductive Numeric where
  /-- An integer that fits 64 bits, with sign if it is negative. -/
  | integer (n : Int)
  /-- A floating point number. -/
  | float (negative : Bool) (magnitude : Number.Double)
  /-- Beyond the greatest floating point number. -/
  | beyond
  deriving DecidableEq, Repr, Inhabited

def maxWord : Nat := UInt64.size - 1

/--
The greatest exponent that is read as written.
-/
def maxExponent : Nat := UInt32.size / 2 - 1

/--
Take digits into a number as long as it fits 64 bits, and return the number and the digits left.
-/
def takeDigits (value : Nat) : List Char → Nat × List Char
  | [] => (value, [])
  | c :: rest =>
    let next := value * 10 + Text.digitValue c
    if next ≤ maxWord then takeDigits next rest else (value, c :: rest)

def Literal.significand (lit : Literal) : Nat × Int :=
  let (value, left) := takeDigits 0 lit.whole
  let (value', left') := takeDigits value (lit.fraction.getD [])
  (value', (left.length : Int) - ((lit.fraction.getD []).length - left'.length : Nat))

def Literal.numeric (lit : Literal) : Numeric :=
  let n := Text.ofDigits lit.whole
  let (value, shift) := lit.significand
  let float (exponent : Int) : Numeric :=
    match Number.Double.ofDecimal? value exponent with
    | some magnitude => .float lit.negative magnitude
    | none => .beyond
  match lit.fraction, lit.exponent with
  | none, none =>
    if lit.negative then
      if 0 < n && n ≤ UInt64.size / 2 then .integer (-n) else float shift
    else if n ≤ maxWord then .integer n
    else float shift
  | _, none => float shift
  | _, some (negative, digits) =>
    let exponent := Text.ofDigits digits
    if maxExponent < exponent then
      if negative || value == 0 then .float lit.negative ⟨0, Number.Double.minExponent⟩ else .beyond
    else float (if negative then shift - exponent else shift + exponent)

end WafWatch.Json
