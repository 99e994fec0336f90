import WafWatch.Text.Lowercase
import WafWatch.Text.Numeral

/-!
This module contains how far the lowering of letters looks. Only the capital sigma has to do with what stands
around it, and no letter has to do with anything beyond a space.
-/

namespace WafWatch.Text

/--
The lower-case form of a text, of which `casedBefore` says whether a cased character comes before it.
-/
def lowerAfter (casedBefore : Bool) : List Char → List Char
  | [] => []
  | c :: rest => lowerAt casedBefore c rest ++ lowerAfter (passCase casedBefore c) rest

theorem lowerFrom_eq (casedBefore : Bool) (done s : List Char) :
    lowerFrom casedBefore done s = done.reverse ++ lowerAfter casedBefore s := by
  induction s generalizing casedBefore done with
  | nil => simp [lowerFrom, lowerAfter]
  | cons c rest ih => simp [lowerFrom, lowerAfter, ih]

theorem lower_eq_lowerAfter (s : List Char) : lower s = lowerAfter false s :=
  lowerFrom_eq false [] s

/-! ### Beyond a space -/

theorem casedAhead_append_space (s right : List Char) :
    casedAhead (s ++ ' ' :: right) = casedAhead s := by
  have hspace : isCaseIgnorable ' ' = false ∧ isCased ' ' = false := by decide +kernel
  unfold casedAhead
  induction s with
  | nil => simp [hspace]
  | cons c rest ih =>
    cases hignorable : isCaseIgnorable c with
    | true => simpa [hignorable] using ih
    | false => simp [hignorable]

theorem lowerAt_append_space (casedBefore : Bool) (c : Char) (s right : List Char) :
    lowerAt casedBefore c (s ++ ' ' :: right) = lowerAt casedBefore c s := by
  unfold lowerAt
  rw [casedAhead_append_space]

theorem lowerAfter_space (casedBefore : Bool) (right : List Char) :
    lowerAfter casedBefore (' ' :: right) = ' ' :: lowerAfter false right := by
  have hpass : passCase casedBefore ' ' = false := by cases casedBefore <;> decide +kernel
  rw [lowerAfter, hpass]
  rfl

theorem lowerAfter_append_space (casedBefore : Bool) (s right : List Char)
    : lowerAfter casedBefore (s ++ ' ' :: right)
        = lowerAfter casedBefore s ++ ' ' :: lowerAfter false right := by
  induction s generalizing casedBefore with
  | nil => exact lowerAfter_space casedBefore right
  | cons c rest ih =>
    rw [List.cons_append, lowerAfter, lowerAfter, lowerAt_append_space, ih, List.append_assoc]

/--
A text is lowered on both sides of a space by itself.
-/
theorem lower_append_space (s right : List Char) :
    lower (s ++ ' ' :: right) = lower s ++ ' ' :: lower right := by
  simp only [lower_eq_lowerAfter]
  exact lowerAfter_append_space false s right

/-! ### Without a capital sigma -/

/--
A text without a capital sigma is lowered character by character.
-/
theorem lower_eq_flatMap {s : List Char} (h : capitalSigma ∉ s) : lower s = s.flatMap lowerChar := by
  rw [lower_eq_lowerAfter]
  generalize false = casedBefore
  induction s generalizing casedBefore with
  | nil => rfl
  | cons c rest ih =>
    rw [List.mem_cons, not_or] at h
    have hc : (c == capitalSigma) = false := beq_eq_false_iff_ne.mpr (Ne.symm h.1)
    rw [lowerAfter, lowerAt, hc, ih h.2]
    rfl

/-! ### ASCII -/

/--
An ASCII letter in the other case.
-/
def otherCase (c : Char) : Char :=
  if c.isUpper then c.toLower else c.toUpper

/--
What holds of the first characters, one after the other, holds of every ASCII character.
-/
theorem forall_ascii {p : Char → Prop} (h : ∀ code < 128, p (Char.ofNat code)) {c : Char}
    (hc : c.toNat < 128)
    : p c := by
  rw [← Char.ofNat_toNat c]
  exact h c.toNat hc

theorem ne_capitalSigma {c : Char} (hc : c.toNat < 128) : c ≠ capitalSigma := by
  rintro rfl
  exact absurd hc (by decide)

theorem toNat_lt_of_isAlpha {c : Char} (hc : c.isAlpha = true) : c.toNat < 128 := by
  have hc : (decide (c.val ≥ 'A'.val ∧ c.val ≤ 'Z'.val)
      || (decide (c.val ≥ 'a'.val) && decide (c.val ≤ 'z'.val))) = true := hc
  simp only [Bool.or_eq_true, Bool.and_eq_true, decide_eq_true_eq, ge_iff_le,
    UInt32.le_iff_toNat_le] at hc
  have hcode : c.toNat = c.val.toNat := rfl
  have hZ : 'Z'.val.toNat = 90 := rfl
  have hz : 'z'.val.toNat = 122 := rfl
  omega

theorem toNat_lt_of_hexValue? {c : Char} {n : Nat} (hc : hexValue? c = some n) : c.toNat < 128 := by
  simp only [hexValue?, isAsciiDigit, Bool.and_eq_true, decide_eq_true_eq, Char.le_def,
    UInt32.le_iff_toNat_le] at hc
  have hcode : c.toNat = c.val.toNat := rfl
  have h9 : '9'.val.toNat = 57 := rfl
  have hF : 'F'.val.toNat = 70 := rfl
  have hf : 'f'.val.toNat = 102 := rfl
  split at hc
  . omega
  . split at hc
    . omega
    . split at hc
      . omega
      . contradiction

theorem otherCase_ascii {c : Char} (hc : c.isAlpha = true)
    : (otherCase c).toNat < 128 ∧ lowerChar (otherCase c) = lowerChar c := by
  have hall : ∀ code < 128, (Char.ofNat code).isAlpha = true →
      (otherCase (Char.ofNat code)).toNat < 128
        ∧ lowerChar (otherCase (Char.ofNat code)) = lowerChar (Char.ofNat code) := by
    decide +kernel
  exact forall_ascii (p := fun c => c.isAlpha = true →
    (otherCase c).toNat < 128 ∧ lowerChar (otherCase c) = lowerChar c) hall
    (toNat_lt_of_isAlpha hc) hc

theorem lowerChar_of_hexValue? {c : Char} {n : Nat} (hc : hexValue? c = some n) :
    lowerChar c = [Nat.digitChar n] := by
  have hall : ∀ code < 128, (hexValue? (Char.ofNat code)).all
      (fun n => lowerChar (Char.ofNat code) = [Nat.digitChar n]) = true := by
    decide +kernel
  have hdigit := forall_ascii (p := fun c =>
    (hexValue? c).all (fun n => lowerChar c = [Nat.digitChar n]) = true) hall
    (toNat_lt_of_hexValue? hc)
  rw [hc] at hdigit
  simpa using hdigit

end WafWatch.Text
