import WafWatch.Text.Numeral

/-!
This module holds lengths of time in whole milliseconds and their written form.
-/

namespace WafWatch.Time

/--
A length of time in milliseconds.
-/
structure Span where
  millis : Nat
  deriving DecidableEq, Repr, Inhabited

def Span.ofSeconds (seconds : Nat) : Span :=
  ⟨seconds * 1000⟩

def trimZeros (digits : List Char) : List Char :=
  (digits.reverse.dropWhile (· == '0')).reverse

/--
The written form of a length of time: in seconds with the fraction that is needed, or in milliseconds
below one second, or in nanoseconds if there is none.
-/
def Span.render (span : Span) : List Char :=
  if 1000 ≤ span.millis then
    let fraction := trimZeros (Text.showPadded 3 (span.millis % 1000))
    Text.showNat (span.millis / 1000) ++
      (if fraction.isEmpty then [] else '.' :: fraction) ++ ['s']
  else if 1 ≤ span.millis then Text.showNat span.millis ++ ['m', 's']
  else ['0', 'n', 's']

end WafWatch.Time
