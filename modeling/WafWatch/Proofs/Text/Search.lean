import WafWatch.Text.Scan
import WafWatch.Text.Search

/-!
This module contains what becomes of a search when other text is put around the text that is searched, with a
space on each side. A space is no part of a word, so words still start and end where they did; only the end of
the text is gone. A pattern that does not ask for it is found as before.
-/

namespace WafWatch.Text

theorem hasPart_iff {part s : List Char} : hasPart part s = true ↔ part <:+: s := by
  induction s with
  | nil => simp [hasPart]
  | cons c rest ih => simp [hasPart, ih, List.infix_cons_iff]

namespace Pattern

/-! ### Places between other texts -/

/--
A place of a text, after other text has been put around, which goes on with `right` behind a space.
-/
def Place.padded (right : List Char) (place : Place) : Place where
  before := some (place.before.getD ' ')
  after := place.after ++ ' ' :: right

variable {right : List Char} {place : Place}

theorem Place.isWordEdge_padded (place : Place) : (place.padded right).isWordEdge = place.isWordEdge := by
  have hspace : isWordChar ' ' = false := by decide +kernel
  obtain ⟨before, after⟩ := place
  cases before <;> cases after <;> simp [isWordEdge, padded, hspace]

theorem mem_places_append {c : Char} {before : Option Char} (left : List Char) {s : List Char}
    (hplace : place ∈ places (some c) s)
    : place ∈ places before (left ++ c :: s) := by
  induction left generalizing before with
  | nil => simp [hplace]
  | cons d left ih => simp [ih]

theorem padded_mem_places {before : Option Char} {s : List Char} (hplace : place ∈ places before s) :
    place.padded right ∈ places (some (before.getD ' ')) (s ++ ' ' :: right) := by
  induction s generalizing before with
  | nil =>
    rw [places_nil, List.mem_singleton] at hplace
    simp [hplace, Place.padded]
  | cons c rest ih =>
    rw [places_cons, List.mem_cons] at hplace
    rw [List.cons_append, places_cons, List.mem_cons]
    rcases hplace with rfl | hlater
    . exact .inl rfl
    . exact .inr (ih hlater)

/-! ### Matches between other texts -/

/--
The pattern nowhere asks for the end of the text.
-/
def endFree : Pattern → Bool
  | .seq p q => p.endFree && q.endFree
  | .either p q => p.endFree && q.endFree
  | .atEnd => false
  | _ => true

section

variable {next next' : Place → Bool}
  (hnext : ∀ place, next place = true → next' (place.padded right) = true)

include hnext

theorem matchText_padded {chars : List Char} {before : Option Char} {after : List Char}
    (h : matchText before next chars after = true)
    : matchText (some (before.getD ' ')) next' chars (after ++ ' ' :: right) = true := by
  induction chars generalizing before after with
  | nil => exact hnext ⟨before, after⟩ h
  | cons a chars ih =>
    cases after with
    | nil => contradiction
    | cons b after =>
      simp only [matchText, List.cons_append, Bool.and_eq_true] at h ⊢
      exact ⟨h.1, ih h.2⟩

theorem matchMany_padded {set : CharSet} {before : Option Char} {after : List Char}
    (h : matchMany set next before after = true)
    : matchMany set next' (some (before.getD ' ')) (after ++ ' ' :: right) = true := by
  induction after generalizing before with
  | nil =>
    have hhere := hnext ⟨before, []⟩ h
    simp only [List.nil_append, matchMany, Bool.or_eq_true]
    exact .inl hhere
  | cons c rest ih =>
    simp only [matchMany, List.cons_append, Bool.or_eq_true, Bool.and_eq_true] at h ⊢
    rcases h with hhere | ⟨hc, hlater⟩
    . exact .inl (hnext ⟨before, c :: rest⟩ hhere)
    . exact .inr ⟨hc, ih hlater⟩

theorem matchThen_padded {p : Pattern} (hp : p.endFree = true) (h : p.matchThen next place = true) :
    p.matchThen next' (place.padded right) = true := by
  induction p generalizing next next' place with
  | text chars => exact matchText_padded hnext h
  | one set =>
    obtain ⟨before, after⟩ := place
    cases after with
    | nil => contradiction
    | cons c rest =>
      simp only [matchThen, Place.padded, List.cons_append, Bool.and_eq_true] at h ⊢
      exact ⟨h.1, hnext ⟨some c, rest⟩ h.2⟩
  | many set => exact matchMany_padded hnext h
  | seq p q ihp ihq =>
    simp only [endFree, Bool.and_eq_true] at hp
    exact ihp (fun place hplace => ihq hnext hp.2 hplace) hp.1 h
  | either p q ihp ihq =>
    simp only [endFree, Bool.and_eq_true] at hp
    simp only [matchThen, Bool.or_eq_true] at h ⊢
    exact h.imp (ihp hnext hp.1) (ihq hnext hp.2)
  | wordEdge =>
    simp only [matchThen, Bool.and_eq_true, Place.isWordEdge_padded] at h ⊢
    exact ⟨h.1, hnext place h.2⟩
  | atEnd => contradiction

end

/-! ### Searches -/

/--
Where the pattern matches in a text, it also matches after other text has been put around.
-/
def StaysFound (p : Pattern) : Prop :=
  ∀ right place, p.matchThen (fun _ => true) place = true →
    p.matchThen (fun _ => true) (place.padded right) = true

variable {p q : Pattern}

theorem staysFound_of_endFree (hp : p.endFree = true) : p.StaysFound :=
  fun _ _ h => matchThen_padded (fun _ _ => rfl) hp h

theorem StaysFound.seq (hp : p.endFree = true) (hq : q.StaysFound) : (seq p q).StaysFound :=
  fun right _ h => matchThen_padded (fun place hplace => hq right place hplace) hp h

theorem StaysFound.either (hp : p.StaysFound) (hq : q.StaysFound) : (either p q).StaysFound := by
  intro right place h
  simp only [matchThen, Bool.or_eq_true] at h ⊢
  exact h.imp (hp right place) (hq right place)

/--
What has to be followed by the end of the text or by a space finds the space in the place of the end.
-/
theorem staysFound_oneOrEnd {set : CharSet} (hset : set.has ' ' = true) :
    (either (.one set) .atEnd).StaysFound := by
  intro right place h
  obtain ⟨before, after⟩ := place
  cases after with
  | nil => simp [matchThen, Place.padded, hset]
  | cons c rest => simpa [matchThen, Place.padded] using h

theorem StaysFound.foundIn (hp : p.StaysFound) {s : List Char} (h : p.foundIn s = true)
    (left right : List Char)
    : p.foundIn (left ++ ' ' :: (s ++ ' ' :: right)) = true := by
  rw [foundIn_eq_any, List.any_eq_true] at h ⊢
  obtain ⟨place, hplace, hmatch⟩ := h
  have hpadded : place.padded right ∈ places (some ' ') (s ++ ' ' :: right) := padded_mem_places hplace
  exact ⟨place.padded right, mem_places_append left hpadded, hp right place hmatch⟩

/-! ### Words and choices -/

theorem matchText_iff {before : Option Char} {chars after : List Char} :
    matchText before (fun _ => true) chars after = true ↔ chars <+: after := by
  induction chars generalizing before after with
  | nil => exact iff_of_true rfl List.nil_prefix
  | cons a chars ih =>
    cases after with
    | nil => simp [matchText]
    | cons b after => simp [matchText, List.cons_prefix_cons, ih]

theorem foundIn_text {chars s : List Char} : (text chars).foundIn s = true ↔ chars <:+: s := by
  rw [foundIn_eq_any]
  generalize (none : Option Char) = before
  induction s generalizing before with
  | nil => simp [matchThen, matchText_iff]
  | cons c rest ih =>
    rw [places_cons, List.any_cons, Bool.or_eq_true, ih, List.infix_cons_iff]
    exact or_congr_left matchText_iff

theorem foundIn_either {s : List Char} : (either p q).foundIn s = true ↔ p.foundIn s = true ∨ q.foundIn s = true := by
  simp only [foundIn_eq_any, matchThen, List.any_eq_true, Bool.or_eq_true, and_or_left, exists_or]

end Pattern

end WafWatch.Text
