/-!
This module holds sets of code points written as sorted lists of closed ranges, the form in which
character properties are published.
-/

namespace WafWatch.Text

/--
A set of code points as a list of closed ranges `(first, last)`.
-/
abbrev Ranges := List (Nat × Nat)

def Ranges.has (ranges : Ranges) (code : Nat) : Bool :=
  ranges.any fun range => range.1 ≤ code && code ≤ range.2

end WafWatch.Text
