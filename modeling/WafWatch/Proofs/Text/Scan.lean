import WafWatch.Text.Scan

/-!
This module contains the laws of a search from left to right. What is found first is still found first when the
text goes on, if no text of the form that is looked for begins within another one. What stands in front can be
left out of the search, if what is looked for could not begin there.
-/

namespace WafWatch.Text

theorem afterPrefix?_eq_some_iff {opening s rest : List Char} :
    afterPrefix? opening s = some rest ↔ s = opening ++ rest := by
  fun_induction afterPrefix? opening s with
  | case1 s => simp
  | case2 a opening => simp
  | case3 a opening b s hsame ih =>
    rw [beq_iff_eq] at hsame
    simp [ih, hsame]
  | case4 a opening b s hother =>
    rw [beq_iff_eq] at hother
    simp [Ne.symm hother]

/--
A text that does not hold the mark cannot begin before it and end behind it.
-/
theorem prefix_of_prefix_append_cons {word s right : List Char} {c : Char} (hc : c ∉ word)
    (hstart : word <+: s ++ c :: right)
    : word <+: s := by
  induction s generalizing word with
  | nil =>
    rcases List.prefix_cons_iff.mp hstart with rfl | ⟨tail, rfl, -⟩
    . exact List.nil_prefix
    . simp at hc
  | cons d rest ih =>
    rcases List.prefix_cons_iff.mp hstart with rfl | ⟨tail, rfl, htail⟩
    . exact List.nil_prefix
    . exact List.cons_prefix_cons.mpr ⟨rfl, ih (List.not_mem_of_not_mem_cons hc) htail⟩

/-! ### Texts of a form -/

def Occurs (form : List Char → Prop) (s : List Char) : Prop :=
  ∃ part, form part ∧ part <:+: s

/--
No text of the form begins within another one and ends there too.
-/
def Unnested (form : List Char → Prop) : Prop :=
  ∀ {before inner after : List Char}, form (before ++ inner ++ after) → form inner → before = []

/--
Something is read exactly where a text of the form begins.
-/
def Recognizes {α : Type} (read : List Char → Option α) (form : List Char → Prop) : Prop :=
  ∀ s, (read s).isSome = true ↔ ∃ part, form part ∧ part <+: s

section

variable {α : Type} {read : List Char → Option α} {form : List Char → Prop} {s : List Char} {a : α}

theorem firstMatch?_of_eq_some (h : read s = some a) : firstMatch? read s = some a := by
  cases s with
  | nil => exact h
  | cons c rest =>
    unfold firstMatch?
    rw [h]

theorem firstMatch?_of_eq_none {c : Char} {rest : List Char} (h : read (c :: rest) = none) :
    firstMatch? read (c :: rest) = firstMatch? read rest := by
  rw [firstMatch?, h]

theorem Recognizes.isSome_firstMatch?_iff (h : Recognizes read form) :
    (firstMatch? read s).isSome = true ↔ Occurs form s := by
  induction s with
  | nil =>
    rw [firstMatch?, h]
    simp only [Occurs, List.prefix_nil, List.infix_nil]
  | cons c rest ih =>
    have hsplit : Occurs form (c :: rest) ↔ (∃ part, form part ∧ part <+: c :: rest) ∨ Occurs form rest := by
      simp only [Occurs, List.infix_cons_iff, and_or_left, exists_or]
    rw [hsplit, ← h, ← ih]
    cases hread : read (c :: rest) with
    | some b => simp [firstMatch?_of_eq_some hread]
    | none => simp [firstMatch?_of_eq_none hread]

/--
A place at which nothing is read stays one when the text goes on, if something is read behind it.
-/
theorem Recognizes.eq_none_append (h : Recognizes read form) (hunnested : Unnested form) {c : Char}
    {rest : List Char} (hnone : read (c :: rest) = none) (hbehind : Occurs form rest) (suffix : List Char)
    : read (c :: (rest ++ suffix)) = none := by
  rw [← List.cons_append, Option.eq_none_iff_forall_ne_some]
  intro b hb
  obtain ⟨part, hpart, hprefix⟩ := (h _).mp (Option.isSome_of_eq_some hb)
  rcases List.prefix_or_prefix_of_prefix hprefix (List.prefix_append (c :: rest) suffix) with hwithin | hbeyond
  . have hsome := (h _).mpr ⟨part, hpart, hwithin⟩
    rw [hnone] at hsome
    contradiction
  -- A text that begins here and ends in the suffix has the one behind within itself.
  . obtain ⟨inner, hinner, before, after, rfl⟩ := hbehind
    obtain ⟨more, rfl⟩ := hbeyond
    have hwhole : c :: (before ++ inner ++ after) ++ more = (c :: before) ++ inner ++ (after ++ more) := by
      simp
    rw [hwhole] at hpart
    exact absurd (hunnested hpart hinner) (List.cons_ne_nil _ _)

theorem Recognizes.firstMatch?_append (h : Recognizes read form) (hunnested : Unnested form) {suffix : List Char}
    (hread : ∀ s a, read s = some a → read (s ++ suffix) = some a) (hfirst : firstMatch? read s = some a)
    : firstMatch? read (s ++ suffix) = some a := by
  induction s with
  | nil => exact firstMatch?_of_eq_some (hread [] a hfirst)
  | cons c rest ih =>
    cases hhere : read (c :: rest) with
    | some b =>
      rw [firstMatch?_of_eq_some hhere] at hfirst
      apply firstMatch?_of_eq_some
      exact hread _ _ (hhere.trans hfirst)
    | none =>
      rw [firstMatch?_of_eq_none hhere] at hfirst
      have hbehind := h.isSome_firstMatch?_iff.mp (Option.isSome_of_eq_some hfirst)
      rw [List.cons_append, firstMatch?_of_eq_none (h.eq_none_append hunnested hhere hbehind suffix)]
      exact ih hfirst

theorem Recognizes.firstMatch?_append_of_occurs (h : Recognizes read form) (hunnested : Unnested form)
    {suffix : List Char} (hread : ∀ s a, read s = some a → read (s ++ suffix) = some a) (hs : Occurs form s)
    : firstMatch? read (s ++ suffix) = firstMatch? read s := by
  obtain ⟨a, hfirst⟩ := Option.isSome_iff_exists.mp (h.isSome_firstMatch?_iff.mpr hs)
  rw [hfirst, h.firstMatch?_append hunnested hread hfirst]

/--
What is found is read at the first place where a text of the form stands.
-/
theorem Recognizes.firstMatch?_eq_some_iff (h : Recognizes read form)
    : firstMatch? read s = some a
        ↔
      ∃ before rest, s = before ++ rest ∧ read rest = some a
        ∧ ∀ earlier part later, form part → s = earlier ++ part ++ later → before.length ≤ earlier.length := by
  -- Where nothing is read, no text of the form begins.
  have hbehind {before rest : List Char} {b : α} (hread : read rest = some b)
      (hfirst : ∀ earlier part later, form part → before ++ rest = earlier ++ part ++ later →
        before.length ≤ earlier.length)
      : firstMatch? read (before ++ rest) = some b := by
    induction before with
    | nil => exact firstMatch?_of_eq_some hread
    | cons c before ih =>
      have hnone : read (c :: (before ++ rest)) = none := by
        rw [← Option.not_isSome_iff_eq_none, h]
        rintro ⟨part, hpart, later, hsame⟩
        have hlength := hfirst [] part later hpart hsame.symm
        contradiction
      rw [List.cons_append, firstMatch?_of_eq_none hnone]
      apply ih
      intro earlier part later hpart hsame
      apply Nat.le_of_succ_le_succ
      apply hfirst (c :: earlier) part later hpart
      rw [List.cons_append, hsame]
      rfl
  constructor
  . intro hsome
    induction s with
    | nil => exact ⟨[], [], rfl, hsome, fun _ _ _ _ _ => Nat.zero_le _⟩
    | cons c rest ih =>
      cases hhere : read (c :: rest) with
      | some b =>
        rw [firstMatch?_of_eq_some hhere, Option.some.injEq] at hsome
        exact ⟨[], c :: rest, rfl, hsome ▸ hhere, fun _ _ _ _ _ => Nat.zero_le _⟩
      | none =>
        rw [firstMatch?_of_eq_none hhere] at hsome
        obtain ⟨before, more, rfl, hread, hfirst⟩ := ih hsome
        refine ⟨c :: before, more, rfl, hread, ?_⟩
        intro earlier part later hpart hsame
        cases earlier with
        | nil =>
          have hread := (h (c :: (before ++ more))).mpr ⟨part, hpart, later, hsame.symm⟩
          rw [hhere] at hread
          contradiction
        | cons d earlier =>
          rw [List.cons_append, List.cons_append, List.cons.injEq] at hsame
          exact Nat.succ_le_succ (hfirst earlier part later hpart hsame.2)
  . rintro ⟨before, rest, rfl, hread, hfirst⟩
    exact hbehind hread hfirst

end

/-! ### Texts in which nothing begins -/

/--
Nowhere in the text the opening stands or begins, whatever may come behind.
-/
inductive Clears (opening : List Char) : List Char → Prop where
  | nil : Clears opening []
  | cons {c : Char} {rest : List Char} (hstart : ¬opening <+: c :: rest) (hbegin : ¬c :: rest <+: opening)
    (hrest : Clears opening rest) : Clears opening (c :: rest)

theorem clears_cons_iff {opening rest : List Char} {c : Char}
    : Clears opening (c :: rest) ↔ ¬opening <+: c :: rest ∧ ¬c :: rest <+: opening ∧ Clears opening rest := by
  constructor
  . intro h
    cases h with
    | cons hstart hbegin hrest => exact ⟨hstart, hbegin, hrest⟩
  . rintro ⟨hstart, hbegin, hrest⟩
    exact .cons hstart hbegin hrest

instance Clears.decidable (opening : List Char) : (s : List Char) → Decidable (Clears opening s)
  | [] => .isTrue .nil
  | c :: rest =>
    have := Clears.decidable opening rest
    decidable_of_iff (¬opening <+: c :: rest ∧ ¬c :: rest <+: opening ∧ Clears opening rest) clears_cons_iff.symm

section

variable {opening s right : List Char}

theorem Clears.not_begins {c : Char} {rest : List Char} (h : Clears opening (c :: rest)) (right : List Char) :
    ¬opening <+: c :: rest ++ right := by
  obtain ⟨hopening, hbegin, -⟩ := clears_cons_iff.mp h
  intro hstart
  rcases List.prefix_or_prefix_of_prefix hstart (List.prefix_append (c :: rest) right) with hwithin | hbeyond
  . exact hopening hwithin
  . exact hbegin hbeyond

theorem Clears.append (hs : Clears opening s) (hright : Clears opening right) :
    Clears opening (s ++ right) := by
  induction hs with
  | nil => exact hright
  | cons hstart hbegin hrest ih =>
    refine .cons ((Clears.cons hstart hbegin hrest).not_begins right) ?_ ih
    intro hlonger
    exact hbegin ((List.prefix_append _ _).trans hlonger)

theorem clears_of_not_mem {c : Char} (hopening : opening.head? = some c) (hc : c ∉ s) : Clears opening s := by
  obtain ⟨word, rfl⟩ := List.head?_eq_some_iff.mp hopening
  induction s with
  | nil => exact .nil
  | cons d rest ih =>
    rw [List.mem_cons, not_or] at hc
    refine .cons ?_ ?_ (ih hc.2)
    . intro hstart
      exact hc.1 (List.cons_prefix_cons.mp hstart).1
    . intro hbegin
      exact hc.1 (List.cons_prefix_cons.mp hbegin).1.symm

/--
A mark that is no part of the opening ends every beginning of it.
-/
theorem clears_concat {c : Char} (hc : c ∉ opening) (hopening : opening ≠ []) (hs : ¬opening <:+: s) :
    Clears opening (s ++ [c]) := by
  induction s with
  | nil =>
    refine .cons ?_ ?_ .nil
    . intro hstart
      exact hopening (List.prefix_nil.mp (prefix_of_prefix_append_cons (s := []) hc hstart))
    . intro hbegin
      exact hc (hbegin.subset List.mem_cons_self)
  | cons d rest ih =>
    rw [List.infix_cons_iff, not_or] at hs
    refine .cons ?_ ?_ (ih hs.2)
    . intro hstart
      exact hs.1 (prefix_of_prefix_append_cons hc hstart)
    . intro hbegin
      exact hc (hbegin.subset (by simp))

theorem Clears.firstMatch?_append {α : Type} {read : List Char → Option α}
    (hread : ∀ s, (read s).isSome = true → opening <+: s) (h : Clears opening s) (right : List Char)
    : firstMatch? read (s ++ right) = firstMatch? read right := by
  induction h with
  | nil => rfl
  | @cons c rest hstart hbegin hrest ih =>
    have hnone : read (c :: (rest ++ right)) = none := by
      rw [Option.eq_none_iff_forall_ne_some]
      intro a ha
      exact (Clears.cons hstart hbegin hrest).not_begins right (hread _ (Option.isSome_of_eq_some ha))
    rw [List.cons_append, firstMatch?_of_eq_none hnone]
    exact ih

end

end WafWatch.Text
