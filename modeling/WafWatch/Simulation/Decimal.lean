import WafWatch.Number.Double

/-!
This module contains the writing of floating point numbers with the fewest decimal digits that round back to
them.
-/

namespace WafWatch.Simulation

open WafWatch.Number WafWatch.Text

def roundsTo (x : Double) (num den : Nat) : Bool :=
  Double.ofRatio? num den == some x

/--
The digits and the decimal exponent of the shortest decimal that rounds to a magnitude, among those
with at most `17` digits: a decimal of `count` digits next below or above the magnitude, the nearer
one if both round to it.
-/
def shortestFrom (x : Double) (point : Int) (count fuel : Nat) : Nat × Int :=
  let (num, den) := x.toRatio
  -- the place of the last of `count` digits
  let last := point - count
  let (n, d) := if 0 ≤ last then (num, den * Nat.pow 10 last.toNat)
    else (num * Nat.pow 10 (-last).toNat, den)
  let below := n / d
  let value (digits : Nat) : Nat × Nat :=
    if 0 ≤ last then (digits * Nat.pow 10 last.toNat, 1) else (digits, Nat.pow 10 (-last).toNat)
  let fits (digits : Nat) : Bool := roundsTo x (value digits).1 (value digits).2
  let nearest := if 2 * (n % d) < d || (2 * (n % d) == d && below % 2 == 0) then below else below + 1
  let other := if nearest == below then below + 1 else below
  if fits nearest then (nearest, last)
  else if fits other then (other, last)
  else
    match fuel with
    | 0 => (nearest, last)
    | fuel + 1 => shortestFrom x point (count + 1) fuel

/--
The number of digits before the decimal point of a positive magnitude, or minus the number of zeros
after it.
-/
def pointOf (x : Double) : Int :=
  let (num, den) := x.toRatio
  if den ≤ num then (showNat (num / den)).length
  else
    let zeros := (showNat (den / num)).length - 1
    -- `den / num` lies in `[10 ^ zeros, 10 ^ (zeros + 1))`
    if num * Nat.pow 10 zeros == den then 1 - (zeros : Int) else -(zeros : Int)

def dropZeros (fuel digits : Nat) (exponent : Int) : Nat × Int :=
  match fuel with
  | 0 => (digits, exponent)
  | fuel + 1 => if digits % 10 == 0 then dropZeros fuel (digits / 10) (exponent + 1) else (digits, exponent)

/--
The shortest decimal that rounds to a positive magnitude.
-/
def shortest (x : Double) : Nat × Int :=
  let (digits, exponent) := shortestFrom x (pointOf x) 1 17
  dropZeros 17 digits exponent

/--
A magnitude as it is written in messages: positionally when the exponent of the first digit is from -5 to 15,
else with a signed exponent.
-/
def showDouble (x : Double) : List Char :=
  if x.isZero then ['0', '.', '0']
  else
    let (digits, exponent) := shortest x
    let text := showNat digits
    let first := exponent + text.length - 1
    if -5 ≤ first && first ≤ 15 then
      if 0 ≤ exponent then text ++ List.replicate exponent.toNat '0' ++ ['.', '0']
      else if 0 ≤ first then
        text.take (first.toNat + 1) ++ '.' :: text.drop (first.toNat + 1)
      else ['0', '.'] ++ List.replicate ((-first).toNat - 1) '0' ++ text
    else
      let fraction := text.drop 1
      text.take 1 ++ (if fraction.isEmpty then [] else '.' :: fraction) ++
        ['e', if first < 0 then '-' else '+'] ++ showNat first.natAbs

end WafWatch.Simulation
