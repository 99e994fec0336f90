/-!
This module contains the search for fixed texts and for the first place where something can be read.
-/

namespace WafWatch.Text

/--
What follows `opening` at the start of a text, if the text starts with it.
-/
def afterPrefix? : (opening s : List Char) → Option (List Char)
  | [], s => some s
  | _ :: _, [] => none
  | a :: opening, b :: s => if a == b then afterPrefix? opening s else none

/--
The first result of `read` on the text from some place on, the leftmost place first.
-/
def firstMatch? {α : Type} (read : List Char → Option α) : List Char → Option α
  | [] => read []
  | c :: rest =>
    match read (c :: rest) with
    | some a => some a
    | none => firstMatch? read rest

def hasPart (part : List Char) : List Char → Bool
  | [] => part.isEmpty
  | c :: rest => part.isPrefixOf (c :: rest) || hasPart part rest

end WafWatch.Text
