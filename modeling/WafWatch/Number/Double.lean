import WafWatch.Text.Numeral

/-!
This module contains the numbers that a binary floating point format with 53 significant bits can
hold, as exact natural arithmetic: rounding a ratio to the nearest of them, ties to the even one.
-/

namespace WafWatch.Number

/--
The magnitude `mantissa * 2 ^ exponent`. Below the least normal magnitude the exponent is -1074.
-/
structure Double where
  mantissa : Nat
  exponent : Int
  deriving DecidableEq, Repr, Inhabited

namespace Double

def precision : Nat := 53

def minExponent : Int := -1074

def maxExponent : Int := 971

/--
The quotient rounded to the nearest natural number, and to the even one of two nearest.
-/
def roundQuotient (num den : Nat) : Nat :=
  let quotient := num / den
  let twice := 2 * (num % den)
  if twice < den || (twice == den && quotient % 2 == 0) then quotient else quotient + 1

/--
The ratio `num / den` divided by `2 ^ exponent`, as a ratio.
-/
def scaled (num den : Nat) (exponent : Int) : Nat × Nat :=
  if 0 ≤ exponent then (num, den * Nat.pow 2 exponent.toNat)
  else (num * Nat.pow 2 (-exponent).toNat, den)

/--
The exponent with which the ratio has a mantissa of exactly the full precision, but at least the
least exponent.
-/
def exponentFor (num den : Nat) : Int :=
  let guess := (num.log2 : Int) - den.log2 - (precision - 1 : Nat)
  let (n, d) := scaled num den guess
  max minExponent (if n / d < Nat.pow 2 (precision - 1) then guess - 1 else guess)

/--
The magnitude nearest to `num / den`; `none` when that is beyond the greatest one.
-/
def ofRatio? (num den : Nat) : Option Double :=
  if num == 0 then some ⟨0, minExponent⟩
  else
    let exponent := exponentFor num den
    let (n, d) := scaled num den exponent
    let mantissa := roundQuotient n d
    let rounded : Double :=
      if mantissa == Nat.pow 2 precision then ⟨Nat.pow 2 (precision - 1), exponent + 1⟩
      else ⟨mantissa, exponent⟩
    if maxExponent < rounded.exponent then none else some rounded

def toRatio (x : Double) : Nat × Nat :=
  if 0 ≤ x.exponent then (x.mantissa * Nat.pow 2 x.exponent.toNat, 1)
  else (x.mantissa, Nat.pow 2 (-x.exponent).toNat)

def isZero (x : Double) : Bool :=
  x.mantissa == 0

/--
The magnitude nearest to a natural number of at most 64 bits.
-/
def ofNat (n : Nat) : Double :=
  (ofRatio? n 1).getD ⟨0, minExponent⟩

def mul? (x y : Double) : Option Double :=
  let (a, b) := x.toRatio
  let (c, d) := y.toRatio
  ofRatio? (a * c) (b * d)

def div? (x y : Double) : Option Double :=
  let (a, b) := x.toRatio
  let (c, d) := y.toRatio
  ofRatio? (a * d) (b * c)

def powerOfTen (k : Nat) : Double :=
  (ofRatio? (Nat.pow 10 k) 1).getD ⟨0, minExponent⟩

def greatestPower : Nat := 308

/--
Scale a magnitude by a power of ten, with a rounding after each division by the greatest power and
after the last step; `none` when the result is beyond the greatest magnitude.
-/
def scaleDown (steps : Nat) (x : Double) (k : Nat) : Option Double :=
  match steps with
  | 0 => some ⟨0, minExponent⟩
  | steps + 1 =>
    if k ≤ greatestPower then x.div? (powerOfTen k)
    else if x.isZero then some x
    else
      match x.div? (powerOfTen greatestPower) with
      | some y => scaleDown steps y (k - greatestPower)
      | none => none

/--
The magnitude that is read from `significand * 10 ^ exponent`; `none` when it is beyond the greatest
one.
-/
def ofDecimal? (significand : Nat) (exponent : Int) : Option Double :=
  let x := ofNat significand
  if 0 ≤ exponent then
    if exponent ≤ greatestPower then x.mul? (powerOfTen exponent.toNat)
    else if x.isZero then some x
    else none
  else scaleDown 4 x exponent.natAbs

end Double

end WafWatch.Number
