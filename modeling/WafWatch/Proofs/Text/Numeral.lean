import Mathlib.Algebra.Group.Nat.Defs
import Mathlib.Data.List.Induction
import WafWatch.Text.Numeral

/-!
This module contains what is written in digits: a number that has been written is read again, and digits end
where something else than a digit stands.
-/

namespace WafWatch.Text

/--
One digit or more.
-/
structure IsDigits (digits : List Char) : Prop where
  ne_nil : digits ≠ []
  digit : ∀ c ∈ digits, isAsciiDigit c = true

/--
The text does not go on with a digit.
-/
def EndsDigits (s : List Char) : Prop :=
  ∀ c ∈ s.head?, isAsciiDigit c = false

theorem endsDigits_cons {c : Char} (h : isAsciiDigit c = false) (rest : List Char) : EndsDigits (c :: rest) := by
  rintro d ⟨⟩
  exact h

/--
What is taken from the start of a text ends where something else begins.
-/
theorem takeWhile_append_ended {p : Char → Bool} {part rest : List Char} (hpart : ∀ c ∈ part, p c = true)
    (hrest : ∀ c ∈ rest.head?, p c = false)
    : (part ++ rest).takeWhile p = part ∧ (part ++ rest).dropWhile p = rest := by
  rw [List.takeWhile_append_of_pos hpart, List.dropWhile_append_of_pos hpart]
  cases rest with
  | nil => exact ⟨List.append_nil _, rfl⟩
  | cons c rest =>
    have hc : ¬p c = true := by
      rw [hrest c rfl]
      exact Bool.false_ne_true
    rw [List.takeWhile_cons_of_neg hc, List.dropWhile_cons_of_neg hc]
    exact ⟨List.append_nil _, rfl⟩

theorem takeWhile_digits {digits rest : List Char} (hdigits : ∀ c ∈ digits, isAsciiDigit c = true)
    (hrest : EndsDigits rest)
    : (digits ++ rest).takeWhile isAsciiDigit = digits
        ∧ (digits ++ rest).dropWhile isAsciiDigit = rest :=
  takeWhile_append_ended hdigits hrest

theorem EndsDigits.dropWhile_eq {s : List Char} (h : EndsDigits s) : s.dropWhile isAsciiDigit = s :=
  (takeWhile_append_ended (List.forall_mem_nil _) h).2

theorem endsDigits_dropWhile (s : List Char) : EndsDigits (s.dropWhile isAsciiDigit) := by
  intro c hc
  have hhead := List.head?_dropWhile_not isAsciiDigit s
  rw [hc] at hhead
  simpa using hhead

theorem isDigits_cons_takeWhile {c : Char} (hc : isAsciiDigit c = true) (s : List Char) :
    IsDigits (c :: s.takeWhile isAsciiDigit) where
  ne_nil := nofun
  digit := by
    intro d hd
    rcases List.mem_cons.mp hd with rfl | hd
    . exact hc
    . exact List.all_eq_true.mp List.all_takeWhile d hd

theorem isDigits_zero : IsDigits ['0'] where
  ne_nil := nofun
  digit _ hc := List.mem_singleton.mp hc ▸ rfl

/-! ### Numbers -/

theorem ofDigits_eq_ofDigitChars (digits : List Char) : ofDigits digits = Nat.ofDigitChars 10 digits 0 := by
  rw [Nat.ofDigitChars_eq_foldl]
  simp only [ofDigits, digitValue, Nat.mul_comm 10]

@[simp]
theorem ofDigits_showNat (n : Nat) : ofDigits (showNat n) = n := by
  rw [ofDigits_eq_ofDigitChars, showNat, Nat.ofDigitChars_ten_toDigits]

theorem isDigits_showNat (n : Nat) : IsDigits (showNat n) where
  ne_nil := Nat.toDigits_ne_nil
  digit c hc := by
    have hdigit := Nat.isDigit_of_mem_toDigits (by decide) (by decide) hc
    simpa [isAsciiDigit, Char.isDigit, Char.le_def] using hdigit

theorem length_showNat_le {n width : Nat} (hwidth : 0 < width) (h : n < 10 ^ width) :
    (showNat n).length ≤ width :=
  (Nat.length_toDigits_le_iff (by decide) hwidth).mpr h

/--
Only zero starts with a zero.
-/
theorem head?_showNat_ne_zero {n : Nat} (h : 0 < n) : (showNat n).head? ≠ some '0' := by
  induction n using Nat.strongRecOn with
  | ind n ih =>
    unfold showNat at *
    by_cases hsmall : n < 10
    . rw [Nat.toDigits_of_lt_base hsmall]
      have hdigit : ∀ n < 10, 0 < n → n.digitChar ≠ '0' := by decide
      simpa using hdigit n hsmall h
    . have hhigh := ih (n / 10) (by omega) (by omega)
      obtain ⟨c, high, hdigits⟩ := List.exists_cons_of_ne_nil (@Nat.toDigits_ne_nil (n / 10) 10)
      rw [Nat.toDigits_of_base_le (by decide) (by omega), hdigits]
      rw [hdigits] at hhigh
      exact hhigh

@[simp]
theorem ofDigits_showPadded (width n : Nat) : ofDigits (showPadded width n) = n := by
  unfold showPadded
  rw [ofDigits_eq_ofDigitChars, Nat.ofDigitChars_append, Nat.ofDigitChars_replicate_zero, Nat.mul_zero,
    ← ofDigits_eq_ofDigitChars, ofDigits_showNat]

theorem isDigits_showPadded (width n : Nat) : IsDigits (showPadded width n) where
  ne_nil := by
    unfold showPadded
    simp [(isDigits_showNat n).ne_nil]
  digit c hc := by
    unfold showPadded at hc
    rcases List.mem_append.mp hc with hzero | hdigit
    . rw [(List.mem_replicate.mp hzero).2]
      rfl
    . exact (isDigits_showNat n).digit c hdigit

theorem length_showPadded {width n : Nat} (hwidth : 0 < width) (h : n < 10 ^ width) :
    (showPadded width n).length = width := by
  have hlength := length_showNat_le hwidth h
  simp only [showPadded, List.length_append, List.length_replicate]
  omega

/-! ### Digits of one length -/

theorem digitValue_lt {c : Char} (h : isAsciiDigit c = true) : digitValue c < 10 := by
  simp only [isAsciiDigit, Bool.and_eq_true, decide_eq_true_eq, Char.le_def, UInt32.le_iff_toNat_le] at h
  have hnine : c.toNat ≤ 57 := h.2
  have hzero : '0'.toNat = 48 := rfl
  unfold digitValue
  omega

theorem eq_of_digitValue_eq {c d : Char} (hc : isAsciiDigit c = true) (hd : isAsciiDigit d = true)
    (h : digitValue c = digitValue d)
    : c = d := by
  simp only [isAsciiDigit, Bool.and_eq_true, decide_eq_true_eq, Char.le_def, UInt32.le_iff_toNat_le] at hc hd
  have hc : '0'.toNat ≤ c.toNat := hc.1
  have hd : '0'.toNat ≤ d.toNat := hd.1
  unfold digitValue at h
  apply Char.toNat_inj.mp
  omega

theorem ofDigits_concat (digits : List Char) (c : Char) :
    ofDigits (digits ++ [c]) = ofDigits digits * 10 + digitValue c := by
  simp [ofDigits]

theorem ofDigits_append (digits more : List Char) :
    ofDigits (digits ++ more) = ofDigits digits * 10 ^ more.length + ofDigits more := by
  induction more using List.reverseRecOn with
  | nil => simp [ofDigits]
  | append_singleton more c ih =>
    rw [← List.append_assoc, ofDigits_concat, ofDigits_concat, ih, List.length_append, List.length_singleton,
      Nat.pow_succ, Nat.add_mul, Nat.mul_assoc, Nat.add_assoc]

theorem ofDigits_lt {digits : List Char} (h : ∀ c ∈ digits, isAsciiDigit c = true) :
    ofDigits digits < 10 ^ digits.length := by
  induction digits using List.reverseRecOn with
  | nil => decide
  | append_singleton digits c ih =>
    rw [List.forall_mem_append, List.forall_mem_singleton] at h
    have hdigits := ih h.1
    have hc := digitValue_lt h.2
    rw [ofDigits_concat, List.length_append, List.length_singleton, Nat.pow_succ]
    omega

/--
Digits of one length differ in their number.
-/
theorem eq_of_ofDigits_eq {digits digits' : List Char} (h : ∀ c ∈ digits, isAsciiDigit c = true)
    (h' : ∀ c ∈ digits', isAsciiDigit c = true) (hlength : digits.length = digits'.length)
    (hvalue : ofDigits digits = ofDigits digits')
    : digits = digits' := by
  induction digits using List.reverseRecOn generalizing digits' with
  | nil => exact (List.length_eq_zero_iff.mp hlength.symm).symm
  | append_singleton digits c ih =>
    cases digits' using List.reverseRecOn with
    | nil => simp at hlength
    | append_singleton digits' c' =>
      rw [List.forall_mem_append, List.forall_mem_singleton] at h h'
      simp only [List.length_append, List.length_singleton, Nat.add_right_cancel_iff] at hlength
      simp only [ofDigits_concat] at hvalue
      have hc := digitValue_lt h.2
      have hc' := digitValue_lt h'.2
      rw [ih h.1 h'.1 hlength (by omega), eq_of_digitValue_eq h.2 h'.2 (by omega)]

theorem showPadded_ofDigits {digits : List Char} (h : IsDigits digits) :
    showPadded digits.length (ofDigits digits) = digits := by
  have hlength := length_showPadded (List.length_pos_iff.mpr h.ne_nil) (ofDigits_lt h.digit)
  exact eq_of_ofDigits_eq (isDigits_showPadded _ _).digit h.digit hlength (ofDigits_showPadded _ _)

theorem showPadded_append_inj {width n m : Nat} {rest rest' : List Char} (hwidth : 0 < width) (hn : n < 10 ^ width)
    (hm : m < 10 ^ width) (h : showPadded width n ++ rest = showPadded width m ++ rest')
    : n = m ∧ rest = rest' := by
  have hlength : (showPadded width n).length = (showPadded width m).length := by
    rw [length_showPadded hwidth hn, length_showPadded hwidth hm]
  obtain ⟨hdigits, hrest⟩ := List.append_inj h hlength
  refine ⟨?_, hrest⟩
  rw [← ofDigits_showPadded width n, hdigits, ofDigits_showPadded]

theorem showPadded_append_cons_inj {width n m : Nat} {c : Char} {rest rest' : List Char} (hwidth : 0 < width)
    (hn : n < 10 ^ width) (hm : m < 10 ^ width)
    (h : showPadded width n ++ c :: rest = showPadded width m ++ c :: rest')
    : n = m ∧ rest = rest' :=
  (showPadded_append_inj hwidth hn hm h).imp_right (List.cons_inj_right c).mp

/-! ### Hexadecimal digits -/

theorem hexValue?_lt {c : Char} {n : Nat} (h : hexValue? c = some n) : n < 16 := by
  unfold hexValue? at h
  split at h
  . next hdigit =>
    simp only [isAsciiDigit, Bool.and_eq_true, decide_eq_true_eq, Char.le_def, UInt32.le_iff_toNat_le,
      Option.some.injEq, digitValue] at hdigit h
    have hnine : c.toNat ≤ 57 := hdigit.2
    have hzero : '0'.toNat = 48 := rfl
    omega
  . split at h
    . next hlower =>
      simp only [Bool.and_eq_true, decide_eq_true_eq, Char.le_def, UInt32.le_iff_toNat_le,
        Option.some.injEq] at hlower h
      have hf : c.toNat ≤ 102 := hlower.2
      have ha : 'a'.toNat = 97 := rfl
      omega
    . split at h
      . next hupper =>
        simp only [Bool.and_eq_true, decide_eq_true_eq, Char.le_def, UInt32.le_iff_toNat_le,
          Option.some.injEq] at hupper h
        have hf : c.toNat ≤ 70 := hupper.2
        have ha : 'A'.toNat = 65 := rfl
        omega
      . contradiction

/--
The text does not go on with a hexadecimal digit.
-/
def EndsHexDigits (s : List Char) : Prop :=
  ∀ c ∈ s.head?, isHexDigit c = false

theorem endsHexDigits_cons {c : Char} (h : isHexDigit c = false) (rest : List Char) : EndsHexDigits (c :: rest) := by
  rintro d ⟨⟩
  exact h

theorem isHexDigit_of_isAsciiDigit {c : Char} (h : isAsciiDigit c = true) : isHexDigit c = true := by
  unfold isHexDigit hexValue?
  rw [if_pos h]
  rfl

theorem EndsHexDigits.endsDigits {s : List Char} (h : EndsHexDigits s) : EndsDigits s := by
  intro c hc
  rw [Bool.eq_false_iff]
  intro hdigit
  have hother := h c hc
  rw [isHexDigit_of_isAsciiDigit hdigit] at hother
  contradiction

theorem EndsHexDigits.takeWhile_eq {s : List Char} (h : EndsHexDigits s) : s.takeWhile isHexDigit = [] :=
  (takeWhile_append_ended (List.forall_mem_nil _) h).1

theorem hexValue?_digitChar {n : Nat} (h : n < 16) : hexValue? n.digitChar = some n := by
  have hall : ∀ n < 16, hexValue? n.digitChar = some n := by decide
  exact hall n h

/--
The digits of a number are its last digit, with those of what is left before it.
-/
theorem toDigits_induction {motive : Nat → List Char → Prop} (digit : ∀ n < 16, motive n [n.digitChar])
    (concat : ∀ n, 16 ≤ n → motive (n / 16) (Nat.toDigits 16 (n / 16)) →
      motive n (Nat.toDigits 16 (n / 16) ++ [(n % 16).digitChar]))
    (n : Nat)
    : motive n (Nat.toDigits 16 n) := by
  induction n using Nat.strongRecOn with
  | ind n ih =>
    by_cases hsmall : n < 16
    . rw [Nat.toDigits_of_lt_base hsmall]
      exact digit n hsmall
    . rw [Nat.toDigits_of_base_le (by decide) (by omega)]
      exact concat n (by omega) (ih (n / 16) (by omega))

theorem ofDigitsIn_toDigits (n : Nat) : ofDigitsIn 16 (Nat.toDigits 16 n) = n := by
  induction n using toDigits_induction with
  | digit n hn => simp [ofDigitsIn, hexValue?_digitChar hn]
  | concat n _ ih =>
    have hlast : n % 16 < 16 := Nat.mod_lt _ (by decide)
    unfold ofDigitsIn at ih ⊢
    rw [List.foldl_append, ih, List.foldl_cons, List.foldl_nil, hexValue?_digitChar hlast, Option.getD_some]
    omega

theorem isHexDigit_of_mem_toDigits {n : Nat} {c : Char} (h : c ∈ Nat.toDigits 16 n) : isHexDigit c = true := by
  have hdigit {n : Nat} (hn : n < 16) : isHexDigit n.digitChar = true := by
    rw [isHexDigit, hexValue?_digitChar hn]
    rfl
  revert h
  induction n using toDigits_induction with
  | digit n hn =>
    intro h
    rw [List.mem_singleton.mp h]
    exact hdigit hn
  | concat n _ ih =>
    intro h
    rcases List.mem_append.mp h with hhigh | hlast
    . exact ih hhigh
    . rw [List.mem_singleton.mp hlast]
      exact hdigit (Nat.mod_lt _ (by decide))

end WafWatch.Text
