import WafWatch.Proofs.Text.Lowercase
import WafWatch.Proofs.Text.Utf8

/-!
This module contains what a lowered text consists of. No run of the case table leads to a code point that is itself on
a run, so a text that has been lowered stays as it is when it is lowered again. Hardly any run leads to ASCII, so most
characters of ASCII can only come from themselves or their capitals.
-/

namespace WafWatch.Text

/-! ### Where the runs lead -/

namespace CaseRun

/--
The code points that a run leads to, in steps of the run.
-/
def target (run : CaseRun) : CaseRun where
  first := Int.toNat (run.first + run.shift)
  last := Int.toNat (run.last + run.shift)
  step := run.step
  shift := 0

/--
No code point is on both runs: one ends before the other begins, or all steps of the first lead past the second.
-/
def apart (run other : CaseRun) : Bool :=
  run.last.blt other.first || other.last.blt run.first ||
    ((run.first == run.last || run.step % other.step == 0) && other.first.ble run.first &&
      (run.first - other.first) % other.step != 0)

variable {run other : CaseRun} {code : Nat}

theorem has_iff : run.has code = true ↔ run.first ≤ code ∧ code ≤ run.last ∧ run.step ∣ code - run.first := by
  simp [has, Nat.dvd_iff_mod_eq_zero, and_assoc]

theorem has_target (hleast : 0 ≤ run.first + run.shift) (h : run.has code = true) :
    run.target.has (Int.toNat (code + run.shift)) = true := by
  rw [has_iff] at h ⊢
  have hdistance : Int.toNat (code + run.shift) - Int.toNat (run.first + run.shift) = code - run.first := by omega
  simp only [target, hdistance]
  exact ⟨by omega, by omega, h.2.2⟩

theorem has_eq_false_of_apart (h : run.apart other = true) (hrun : run.has code = true) : other.has code = false := by
  rw [Bool.eq_false_iff, ne_eq, has_iff]
  rintro ⟨hfirst, hlast, hstep⟩
  rw [has_iff] at hrun
  simp only [apart, Bool.or_eq_true, Bool.and_eq_true, Nat.blt_eq, Nat.ble_eq, beq_iff_eq, bne_iff_ne, ne_eq,
    ← Nat.dvd_iff_mod_eq_zero] at h
  rcases h with (hbefore | hbehind) | ⟨⟨hsteps, hle⟩, hpast⟩
  . omega
  . omega
  . have hoffset : other.step ∣ code - run.first := by
      rcases hsteps with hsingle | hdvd
      . have hcode : code - run.first = 0 := by omega
        rw [hcode]
        exact Nat.dvd_zero _
      . exact Nat.dvd_trans hdvd hrun.2.2
    have hdistance : code - other.first - (code - run.first) = run.first - other.first := by omega
    exact hpast (hdistance ▸ Nat.dvd_sub hstep hoffset)

end CaseRun

/--
All code points that are lowered: those on the runs and the dotted capital I.
-/
def loweredRuns : List CaseRun :=
  ⟨0x130, 0x130, 1, 0⟩ :: caseRuns

/--
Every run leads to characters that are not lowered any more.
-/
theorem target_apart : ∀ run ∈ caseRuns, ∀ other ∈ loweredRuns, run.target.apart other = true := by
  have hall : (caseRuns.all fun run => loweredRuns.all fun other => run.target.apart other) = true := by
    decide +kernel
  intro run hrun other hother
  exact List.all_eq_true.mp (List.all_eq_true.mp hall run hrun) other hother

theorem target_valid : ∀ run ∈ caseRuns, 0 ≤ run.first + run.shift
    ∧ (run.target.last < 0xd800 ∨ 0xdfff < run.target.first ∧ run.target.last < 0x110000) := by
  decide +kernel

/-! ### Characters that stay -/

/--
The character is its own lower-case form, wherever it stands.
-/
structure IsLowered (c : Char) : Prop where
  ne_capitalSigma : c ≠ capitalSigma
  lowerChar_eq : lowerChar c = [c]

instance (c : Char) : Decidable (IsLowered c) :=
  decidable_of_iff (c ≠ capitalSigma ∧ lowerChar c = [c]) ⟨fun h => ⟨h.1, h.2⟩, fun h => ⟨h.1, h.2⟩⟩

theorem toLower_eq_self {c : Char} (hc : c.toNat < 128) (h : ∀ run ∈ loweredRuns, run.has c.toNat = false) :
    c.toLower = c := by
  have hcapitals : (⟨0x41, 0x5a, 1, 32⟩ : CaseRun) ∈ loweredRuns := by decide
  have hall : ∀ code < 128, (⟨0x41, 0x5a, 1, 32⟩ : CaseRun).has (Char.ofNat code).toNat = false →
      (Char.ofNat code).toLower = Char.ofNat code := by
    decide +kernel
  exact forall_ascii (p := fun c => (⟨0x41, 0x5a, 1, 32⟩ : CaseRun).has c.toNat = false → c.toLower = c) hall hc
    (h _ hcapitals)

theorem isLowered_of_not_has {c : Char} (h : ∀ run ∈ loweredRuns, run.has c.toNat = false) : IsLowered c := by
  constructor
  . rintro rfl
    have hgreek : (⟨0x3a3, 0x3ab, 1, 32⟩ : CaseRun) ∈ loweredRuns := by decide
    have hoff := h _ hgreek
    contradiction
  . have hdotted : (c.toNat == 0x130) = false := by
      rw [beq_eq_false_iff_ne]
      intro hcode
      have hoff := h _ List.mem_cons_self
      rw [hcode] at hoff
      contradiction
    have hnone : caseRuns.find? (·.has c.toNat) = none := by
      rw [List.find?_eq_none]
      intro run hrun
      rw [h run (List.mem_cons_of_mem _ hrun)]
      exact Bool.false_ne_true
    unfold lowerChar
    rw [hdotted, hnone]
    split
    . next hascii => rw [toLower_eq_self hascii h]
    . rfl

/--
What a run leads to is a character that stays.
-/
theorem isLowered_of_has {run : CaseRun} (hrun : run ∈ caseRuns) {code : Nat} (h : run.has code = true) :
    IsLowered (Char.ofNat (Int.toNat (code + run.shift))) := by
  obtain ⟨hleast, hvalid⟩ := target_valid run hrun
  have htarget := CaseRun.has_target hleast h
  have hbounds := CaseRun.has_iff.mp htarget
  apply isLowered_of_not_has
  rw [toNat_ofNat_of_lt (by omega)]
  intro other hother
  exact CaseRun.has_eq_false_of_apart (target_apart run hrun other hother) htarget

theorem isLowered_of_mem_lowerChar {c d : Char} (hc : c ≠ capitalSigma) (h : d ∈ lowerChar c) : IsLowered d := by
  unfold lowerChar at h
  split at h
  . next hascii =>
    have hall : ∀ code < 128, IsLowered (Char.ofNat code).toLower := by decide +kernel
    rw [List.mem_singleton.mp h]
    exact forall_ascii (p := fun c => IsLowered c.toLower) hall hascii
  . next hascii =>
    split at h
    . have hdotted : IsLowered 'i' ∧ IsLowered (Char.ofNat 0x307) := by decide +kernel
      rcases List.mem_cons.mp h with rfl | hdot
      . exact hdotted.1
      . exact List.mem_singleton.mp hdot ▸ hdotted.2
    . next hdotted =>
      split at h
      . next run hfound =>
        have hhas := List.find?_some hfound
        rw [List.mem_singleton.mp h]
        exact isLowered_of_has (List.mem_of_find?_eq_some hfound) hhas
      . next hnone =>
        rw [List.mem_singleton.mp h]
        refine ⟨hc, ?_⟩
        unfold lowerChar
        rw [if_neg hascii, if_neg hdotted, hnone]

theorem isLowered_of_mem_lowerAt {casedBefore : Bool} {c d : Char} {after : List Char}
    (h : d ∈ lowerAt casedBefore c after)
    : IsLowered d := by
  have hsmall : IsLowered 'ς' ∧ IsLowered 'σ' := by decide +kernel
  unfold lowerAt at h
  split at h
  . split at h
    . exact List.mem_singleton.mp h ▸ hsmall.1
    . exact List.mem_singleton.mp h ▸ hsmall.2
  . next hc => exact isLowered_of_mem_lowerChar (fun heq => hc (beq_iff_eq.mpr heq)) h

theorem isLowered_of_mem_lower {s : List Char} {d : Char} (h : d ∈ lower s) : IsLowered d := by
  rw [lower_eq_lowerAfter] at h
  generalize false = casedBefore at h
  induction s generalizing casedBefore with
  | nil => contradiction
  | cons c rest ih =>
    rw [lowerAfter, List.mem_append] at h
    rcases h with hhere | hlater
    . exact isLowered_of_mem_lowerAt hhere
    . exact ih _ hlater

theorem lower_eq_self {s : List Char} (h : ∀ c ∈ s, IsLowered c) : lower s = s := by
  have hsigma : capitalSigma ∉ s := fun hmem => (h _ hmem).ne_capitalSigma rfl
  rw [lower_eq_flatMap hsigma]
  clear hsigma
  induction s with
  | nil => rfl
  | cons c rest ih =>
    rw [List.forall_mem_cons] at h
    rw [List.flatMap_cons, h.1.lowerChar_eq, ih h.2]
    rfl

/-! ### Where ASCII comes from -/

/--
A character of ASCII to which nothing is lowered but itself and its capital; the dotted capital I and the sign of the
Kelvin are lowered to the others.
-/
structure OnlyFromAscii (d : Char) : Prop where
  ascii : d.toNat < 128
  ne_i : d ≠ 'i'
  ne_k : d ≠ 'k'

instance (d : Char) : Decidable (OnlyFromAscii d) :=
  decidable_of_iff (d.toNat < 128 ∧ d ≠ 'i' ∧ d ≠ 'k') ⟨fun h => ⟨h.1, h.2.1, h.2.2⟩, fun h => ⟨h.1, h.2, h.3⟩⟩

theorem target_ascii : ∀ run ∈ caseRuns,
    run.last < 128 ∨ 128 ≤ run.target.first ∨ run.target.first = 'k'.toNat ∧ run.target.last = 'k'.toNat := by
  decide +kernel

theorem lowerAt_of_ascii {c : Char} (hc : c.toNat < 128) (casedBefore : Bool) (after : List Char) :
    lowerAt casedBefore c after = [c.toLower] := by
  have hsigma : (c == capitalSigma) = false := beq_eq_false_iff_ne.mpr (ne_capitalSigma hc)
  unfold lowerAt lowerChar
  rw [hsigma, if_neg Bool.false_ne_true, if_pos hc]

theorem lowerAt_ne_nil (casedBefore : Bool) (c : Char) (after : List Char) : lowerAt casedBefore c after ≠ [] := by
  unfold lowerAt lowerChar
  repeat' split
  all_goals exact List.cons_ne_nil _ _

theorem toNat_lt_of_mem_lowerChar {c d : Char} (hd : OnlyFromAscii d) (h : d ∈ lowerChar c) : c.toNat < 128 := by
  by_contra hc
  unfold lowerChar at h
  rw [if_neg hc] at h
  split at h
  . have hother : ¬OnlyFromAscii 'i' ∧ ¬OnlyFromAscii (Char.ofNat 0x307) := by decide
    rcases List.mem_cons.mp h with rfl | hdot
    . exact hother.1 hd
    . exact hother.2 (List.mem_singleton.mp hdot ▸ hd)
  . split at h
    . next run hfound =>
      have hrun := List.mem_of_find?_eq_some hfound
      have hhas := List.find?_some hfound
      obtain ⟨hleast, hvalid⟩ := target_valid run hrun
      have htarget := CaseRun.has_iff.mp (CaseRun.has_target hleast hhas)
      have hcode : d.toNat = Int.toNat (c.toNat + run.shift) := by
        rw [List.mem_singleton.mp h, toNat_ofNat_of_lt (by omega)]
      have hlast := (CaseRun.has_iff.mp hhas).2.1
      have hascii := hd.ascii
      rcases target_ascii run hrun with hlow | hhigh | hkelvin
      . omega
      . omega
      . exact hd.ne_k (Char.toNat_inj.mp (by omega))
    . rw [List.mem_singleton.mp h] at hd
      exact hc hd.ascii

theorem toNat_lt_of_mem_lowerAt {casedBefore : Bool} {c d : Char} {after : List Char} (hd : OnlyFromAscii d)
    (h : d ∈ lowerAt casedBefore c after)
    : c.toNat < 128 := by
  have hsmall : ¬OnlyFromAscii 'ς' ∧ ¬OnlyFromAscii 'σ' := by decide
  unfold lowerAt at h
  split at h
  . split at h
    . exact absurd (List.mem_singleton.mp h ▸ hd) hsmall.1
    . exact absurd (List.mem_singleton.mp h ▸ hd) hsmall.2
  . exact toNat_lt_of_mem_lowerChar hd h

theorem toNat_lt_of_toLower {c : Char} (h : c.toLower.toNat < 128) : c.toNat < 128 := by
  unfold Char.toLower at h
  split at h
  . next hupper =>
    have hlast : c.toNat ≤ 'Z'.toNat := hupper.2
    exact Nat.lt_of_le_of_lt hlast (by decide)
  . exact h

theorem eq_or_eq_toUpper_of_toLower {c d : Char} (hd : d.toNat < 128) (h : c.toLower = d) : c = d ∨ c = d.toUpper := by
  have hall : ∀ code < 128, Char.ofNat code = (Char.ofNat code).toLower
      ∨ Char.ofNat code = (Char.ofNat code).toLower.toUpper := by
    decide
  subst h
  exact forall_ascii (p := fun c => c = c.toLower ∨ c = c.toLower.toUpper) hall (toNat_lt_of_toLower hd)

/-! ### Words of ASCII -/

section

variable {casedBefore : Bool} {word s : List Char}

theorem exists_suffix_lowerAfter (casedBefore : Bool) (left right : List Char) :
    ∃ cased, lowerAfter cased right <:+ lowerAfter casedBefore (left ++ right) := by
  induction left generalizing casedBefore with
  | nil => exact ⟨casedBefore, List.suffix_refl _⟩
  | cons c left ih =>
    obtain ⟨cased, hsuffix⟩ := ih (passCase casedBefore c)
    exact ⟨cased, hsuffix.trans (List.suffix_append _ _)⟩

theorem map_toLower_prefix_lowerAfter {part : List Char} (hpart : ∀ c ∈ part, c.toNat < 128) (casedBefore : Bool)
    (right : List Char)
    : part.map Char.toLower <+: lowerAfter casedBefore (part ++ right) := by
  induction part generalizing casedBefore with
  | nil => exact List.nil_prefix
  | cons c part ih =>
    rw [List.forall_mem_cons] at hpart
    rw [List.cons_append, lowerAfter, lowerAt_of_ascii hpart.1]
    exact List.cons_prefix_cons.mpr ⟨rfl, ih hpart.2 _⟩

theorem exists_prefix_of_prefix_lowerAfter (hword : ∀ d ∈ word, OnlyFromAscii d)
    (h : word <+: lowerAfter casedBefore s)
    : ∃ part, part <+: s ∧ part.map Char.toLower = word := by
  induction s generalizing word casedBefore with
  | nil => exact ⟨[], List.nil_prefix, (List.prefix_nil.mp h).symm⟩
  | cons c rest ih =>
    cases word with
    | nil => exact ⟨[], List.nil_prefix, rfl⟩
    | cons d word =>
      rw [List.forall_mem_cons] at hword
      obtain ⟨e, more, hat⟩ := List.exists_cons_of_ne_nil (lowerAt_ne_nil casedBefore c rest)
      rw [lowerAfter, hat, List.cons_append, List.cons_prefix_cons] at h
      obtain ⟨rfl, hlater⟩ := h
      have hc := toNat_lt_of_mem_lowerAt hword.1 (hat ▸ List.mem_cons_self)
      rw [lowerAt_of_ascii hc, List.cons.injEq] at hat
      obtain ⟨rfl, rfl⟩ := hat
      obtain ⟨part, hpart, rfl⟩ := ih hword.2 hlater
      exact ⟨c :: part, List.cons_prefix_cons.mpr ⟨rfl, hpart⟩, rfl⟩

theorem exists_eq_lowerAfter_of_suffix {d : Char} (hd : OnlyFromAscii d) (h : d :: word <:+ lowerAfter casedBefore s) :
    ∃ cased right, right <:+ s ∧ d :: word = lowerAfter cased right := by
  induction s generalizing casedBefore with
  | nil => exact absurd (List.suffix_nil.mp h) (List.cons_ne_nil _ _)
  | cons c rest ih =>
    have hlater {cased : Bool} (h : d :: word <:+ lowerAfter cased rest) :
        ∃ cased right, right <:+ c :: rest ∧ d :: word = lowerAfter cased right := by
      obtain ⟨cased, right, hright, hword⟩ := ih h
      exact ⟨cased, right, hright.trans (List.suffix_cons c rest), hword⟩
    rcases List.suffix_or_suffix_of_suffix h (List.suffix_append _ _) with hbehind | hbefore
    . exact hlater hbehind
    . obtain ⟨first, hfirst⟩ := hbefore
      obtain ⟨skipped, hskipped⟩ := h
      rw [lowerAfter, ← hfirst, ← List.append_assoc] at hskipped
      have hat := List.append_cancel_right hskipped
      cases first with
      | nil => exact hlater ⟨[], hfirst.symm⟩
      | cons e more =>
        -- the first character of the word is the only one that comes from here
        obtain ⟨rfl, -⟩ := List.cons.inj hfirst
        have hc := toNat_lt_of_mem_lowerAt hd (hat ▸ List.mem_append_right _ List.mem_cons_self)
        rw [lowerAt_of_ascii hc] at hat
        have hsingle : skipped = [] ∧ more = [] := by
          have hlength := congrArg List.length hat
          simp only [List.length_append, List.length_cons, List.length_nil] at hlength
          exact ⟨List.length_eq_zero_iff.mp (by omega), List.length_eq_zero_iff.mp (by omega)⟩
        refine ⟨casedBefore, c :: rest, List.suffix_refl _, ?_⟩
        rw [lowerAfter, lowerAt_of_ascii hc, ← hat, hsingle.1, List.nil_append, hfirst]

/--
A word stands in a lowered text exactly where it stands in the text, with its letters in any case.
-/
theorem infix_lower_iff (hne : word ≠ []) (hword : ∀ d ∈ word, OnlyFromAscii d) :
    word <:+: lower s ↔ ∃ part, part <:+: s ∧ part.map Char.toLower = word := by
  rw [lower_eq_lowerAfter]
  constructor
  . intro h
    obtain ⟨t, hstarts, hsuffix⟩ := List.infix_iff_prefix_suffix.mp h
    obtain ⟨d, more, rfl⟩ := List.exists_cons_of_ne_nil hne
    obtain ⟨rest, rfl⟩ := hstarts
    have hd := hword d List.mem_cons_self
    obtain ⟨cased, right, hright, hwhole⟩ := exists_eq_lowerAfter_of_suffix hd hsuffix
    obtain ⟨part, hpart, hmap⟩ := exists_prefix_of_prefix_lowerAfter hword ⟨rest, hwhole⟩
    exact ⟨part, hpart.isInfix.trans hright.isInfix, hmap⟩
  . rintro ⟨part, ⟨left, right, rfl⟩, rfl⟩
    have hpart : ∀ c ∈ part, c.toNat < 128 := fun c hc =>
      toNat_lt_of_toLower (hword c.toLower (List.mem_map_of_mem hc)).ascii
    obtain ⟨cased, hsuffix⟩ := exists_suffix_lowerAfter false left (part ++ right)
    rw [List.append_assoc]
    exact (map_toLower_prefix_lowerAfter hpart cased right).isInfix.trans hsuffix.isInfix

end

end WafWatch.Text
