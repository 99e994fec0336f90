import WafWatch.Text.Property

/-!
This module contains the operations on blanks: trimming a text and cutting it into words.
-/

namespace WafWatch.Text

def trimEnd (s : List Char) : List Char :=
  (s.reverse.dropWhile isBlank).reverse

def trim (s : List Char) : List Char :=
  trimEnd (s.dropWhile isBlank)

def firstWord (s : List Char) : Option (List Char × List Char) :=
  match s.dropWhile isBlank with
  | [] => none
  | c :: rest =>
    some (c :: rest.takeWhile (!isBlank ·), rest.dropWhile (!isBlank ·))

theorem length_firstWord {s word rest : List Char} (h : firstWord s = some (word, rest)) :
    rest.length < s.length := by
  have h1 : (s.dropWhile isBlank).length ≤ s.length := (List.dropWhile_sublist _).length_le
  unfold firstWord at h
  split at h
  · simp at h
  · rename_i c tail heq
    rw [heq] at h1
    simp only [Option.some.injEq, Prod.mk.injEq] at h
    obtain ⟨_, rfl⟩ := h
    have h2 : (tail.dropWhile (!isBlank ·)).length ≤ tail.length :=
      (List.dropWhile_sublist _).length_le
    simp only [List.length_cons] at h1
    omega

/--
The words of a text, that is its longest pieces without blanks.
-/
def words (s : List Char) : List (List Char) :=
  match _h : firstWord s with
  | none => []
  | some (word, rest) => word :: words rest
termination_by s.length
decreasing_by exact length_firstWord (by assumption)

end WafWatch.Text
