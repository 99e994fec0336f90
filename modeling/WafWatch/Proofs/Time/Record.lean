import WafWatch.Proofs.Text.Numeral
import WafWatch.Proofs.Time.Calendar
import WafWatch.Time.Reading

/-!
This module contains the written form of instants: every instant that there is can be read from its own text.
-/

namespace WafWatch.Time

open WafWatch.Text

namespace Timestamp

/--
There is such an instant. Only the last second of a minute may be followed by a leap second.
-/
structure IsValid (t : Timestamp) : Prop where
  inRange : t.inRange = true
  nanos : t.nanos < nanosPerSecond ∨ t.nanos < 2 * nanosPerSecond ∧ t.seconds % 60 = 59

/-! ### Fields -/

theorem exists_toFields {t : Timestamp}
    (hnanos : t.nanos < nanosPerSecond ∨ t.nanos < 2 * nanosPerSecond ∧ t.seconds % 60 = 59)
    : t.toFields.exists = true := by
  unfold Fields.exists toFields
  simp only [Bool.and_eq_true, decide_eq_true_eq]
  unfold nanosPerSecond secondsPerDay at *
  refine ⟨⟨⟨⟨exists_ofDayNumber _, ?_⟩, ?_⟩, ?_⟩, ?_⟩ <;> omega

theorem ofFields_toFields {t : Timestamp}
    (hnanos : t.nanos < nanosPerSecond ∨ t.nanos < 2 * nanosPerSecond ∧ t.seconds % 60 = 59)
    : ofFields t.toFields = t := by
  obtain ⟨seconds, nanos⟩ := t
  unfold ofFields toFields
  dsimp only
  rw [dayNumber_ofDayNumber]
  unfold nanosPerSecond secondsPerDay at *
  dsimp only at hnanos
  by_cases hleap : nanos < 1000000000
  . have hsecond : ((seconds % 86400).toNat % 60 + nanos / 1000000000 == 60) = false := by
      rw [beq_eq_false_iff_ne]
      omega
    rw [hsecond]
    simp only [Bool.false_eq_true, if_false, mk.injEq]
    omega
  . have hsecond : ((seconds % 86400).toNat % 60 + nanos / 1000000000 == 60) = true := by
      rw [beq_iff_eq]
      omega
    rw [hsecond]
    simp only [if_true, mk.injEq]
    omega

theorem toFields_ofFields {fields : Fields} (h : fields.exists = true) : (ofFields fields).toFields = fields := by
  obtain ⟨date, hour, minute, second, nanos⟩ := fields
  simp only [Fields.exists, Bool.and_eq_true, decide_eq_true_eq] at h
  obtain ⟨⟨⟨⟨hdate, hhour⟩, hminute⟩, hsecond⟩, hnanos⟩ := h
  -- A leap second is kept in the nanoseconds of the second before it.
  obtain ⟨shown, held, hshown, hsum, hrest, hfields⟩ : ∃ shown held, shown ≤ 59
      ∧ second = shown + held / nanosPerSecond ∧ nanos = held % nanosPerSecond
      ∧ ofFields ⟨date, hour, minute, second, nanos⟩
        = ⟨date.dayNumber * secondsPerDay + (hour * 3600 + minute * 60 + shown : Nat), held⟩ := by
    unfold nanosPerSecond at *
    by_cases hleap : second = 60
    . subst hleap
      exact ⟨59, 1000000000 + nanos, by decide, by omega, by omega, rfl⟩
    . refine ⟨second, nanos, by omega, by omega, by omega, ?_⟩
      simp [ofFields, hleap]
  rw [hfields, hsum, hrest]
  unfold toFields secondsPerDay
  dsimp only
  have hday : (date.dayNumber * 86400 + (hour * 3600 + minute * 60 + shown : Nat)) / 86400 = date.dayNumber := by
    omega
  have htime : ((date.dayNumber * 86400 + (hour * 3600 + minute * 60 + shown : Nat)) % 86400).toNat
      = hour * 3600 + minute * 60 + shown := by
    omega
  rw [hday, htime, ofDayNumber_dayNumber hdate]
  simp only [Fields.mk.injEq, true_and, and_true]
  omega

end Timestamp

/-! ### Parts -/

theorem isBlank_of_isAsciiDigit {c : Char} (h : isAsciiDigit c = true) : isBlank c = false := by
  simp only [isAsciiDigit, Bool.and_eq_true, decide_eq_true_eq, Char.le_def, UInt32.le_iff_toNat_le] at h
  have hzero : '0'.val.toNat = 48 := rfl
  have hnine : '9'.val.toNat = 57 := rfl
  have hascii : c.toNat < 128 := by
    unfold Char.toNat
    omega
  unfold isBlank
  dsimp only
  rw [if_pos hascii]
  simp only [Bool.or_eq_false_iff, Bool.and_eq_false_iff, decide_eq_false_iff_not, beq_eq_false_iff_ne]
  unfold Char.toNat
  omega

theorem dropWhile_isBlank_digits {digits : List Char} (h : IsDigits digits) (rest : List Char) :
    (digits ++ rest).dropWhile isBlank = digits ++ rest := by
  obtain ⟨c, more, rfl⟩ := List.exists_cons_of_ne_nil h.ne_nil
  have hblank := isBlank_of_isAsciiDigit (h.digit c List.mem_cons_self)
  rw [List.cons_append, List.dropWhile_cons_of_neg (by simp [hblank])]

theorem readDigits?_append {most : Nat} {digits rest : List Char} (hdigits : IsDigits digits)
    (hmost : digits.length ≤ most) (hrest : digits.length = most ∨ EndsDigits rest)
    : readDigits? most (digits ++ rest) = some (digits, rest) := by
  -- Either nothing of the rest is looked at, or it goes on without a digit.
  have hends : EndsDigits (rest.take (most - digits.length)) := by
    rcases hrest with hlength | hends
    . rw [hlength, Nat.sub_self]
      exact nofun
    . intro c hc
      rw [List.head?_take] at hc
      split at hc
      . contradiction
      . exact hends c hc
  unfold readDigits?
  rw [List.take_append, List.take_of_length_le hmost, (takeWhile_digits hdigits.digit hends).1]
  simp [hdigits.ne_nil]

theorem readSmall?_showPadded {n : Nat} (h : n < 100) (rest : List Char) :
    readSmall? (showPadded 2 n ++ rest) = some (n, rest) := by
  have hdigits := isDigits_showPadded 2 n
  have hlength : (showPadded 2 n).length = 2 := length_showPadded (by decide) h
  unfold readSmall?
  rw [dropWhile_isBlank_digits hdigits, readDigits?_append hdigits (Nat.le_of_eq hlength) (.inl hlength)]
  exact congrArg (fun m => some (m, rest)) (ofDigits_showPadded 2 n)

theorem readMark?_cons {c : Char} (h : isBlank c = false) (rest : List Char) :
    readMark? c (c :: rest) = some rest := by
  unfold readMark?
  rw [List.dropWhile_cons_of_neg (by simp [h])]
  simp [afterPrefix?]

theorem readYear?_append {digits : List Char} (hdigits : IsDigits digits) (hlength : digits.length = 4)
    (rest : List Char)
    : readYear? (digits ++ rest) = some ((ofDigits digits : Int), rest) := by
  have hread : readDigits? 4 (digits ++ rest) = some (digits, rest) :=
    readDigits?_append hdigits (Nat.le_of_eq hlength) (.inl hlength)
  have hsign {sign : Char} {after : List Char} (hs : digits ++ rest = sign :: after) :
      isAsciiDigit sign = true := by
    obtain ⟨c, more, rfl⟩ := List.exists_cons_of_ne_nil hdigits.ne_nil
    injection hs with hc
    exact hc ▸ hdigits.digit c List.mem_cons_self
  unfold readYear?
  rw [dropWhile_isBlank_digits hdigits]
  split
  . next hs => exact absurd (hsign hs) (by decide)
  . next hs => exact absurd (hsign hs) (by decide)
  . rw [hread]
    rfl

theorem readYear?_showYear {rest : List Char} (year : Int) (hrest : EndsDigits rest) :
    readYear? (Timestamp.showYear year ++ rest) = some (year, rest) := by
  have hdigits := isDigits_showPadded 4 year.natAbs
  have hmost : (showPadded 4 year.natAbs).length ≤ (showPadded 4 year.natAbs ++ rest).length := by
    rw [List.length_append]
    exact Nat.le_add_right _ _
  have hread := readDigits?_append hdigits hmost (.inr hrest)
  unfold Timestamp.showYear
  split
  . next hplain =>
    simp only [Bool.and_eq_true, decide_eq_true_eq] at hplain
    have hlength : (showPadded 4 year.toNat).length = 4 := length_showPadded (by decide) (by omega)
    rw [readYear?_append (isDigits_showPadded 4 year.toNat) hlength, ofDigits_showPadded,
      Int.toNat_of_nonneg hplain.1]
  . split
    . rw [List.cons_append]
      unfold readYear?
      rw [List.dropWhile_cons_of_neg (by decide)]
      simp only [hread, ofDigits_showPadded, Option.bind_eq_bind, Option.bind_some, Option.pure_def]
      congr 2
      omega
    . rw [List.cons_append]
      unfold readYear?
      rw [List.dropWhile_cons_of_neg (by decide)]
      simp only [hread, ofDigits_showPadded, Option.bind_eq_bind, Option.bind_some, Option.pure_def]
      congr 2
      omega

theorem readFraction?_point {width n nanos : Nat} {rest : List Char} (hwidth : 0 < width) (hnine : width ≤ 9)
    (hn : n < 10 ^ width) (hnanos : n * 10 ^ (9 - width) = nanos) (hrest : EndsDigits rest)
    : readFraction? ('.' :: showPadded width n ++ rest) = some (nanos, rest) := by
  have hlength : (showPadded width n).length = width := length_showPadded hwidth hn
  have hdrop : rest.dropWhile isAsciiDigit = rest := (@takeWhile_digits [] rest nofun hrest).2
  show (readDigits? 9 (showPadded width n ++ rest)).bind _ = _
  rw [readDigits?_append (isDigits_showPadded width n) (Nat.le_trans (Nat.le_of_eq hlength) hnine) (.inr hrest)]
  simp [hlength, hdrop, hnanos]

theorem readFraction?_showFraction {nanos : Nat} {rest : List Char} (h : nanos < nanosPerSecond)
    (hrest : EndsDigits rest) (hpoint : rest.head? ≠ some '.')
    : readFraction? (Timestamp.showFraction nanos ++ rest) = some (nanos, rest) := by
  unfold nanosPerSecond at h
  unfold Timestamp.showFraction
  simp only [beq_iff_eq]
  by_cases hzero : nanos = 0
  . subst hzero
    rw [if_pos rfl, List.nil_append]
    unfold readFraction?
    split
    . exact absurd rfl hpoint
    . rfl
  . rw [if_neg hzero]
    split
    . exact readFraction?_point (by decide) (by decide) (by omega) (by omega) hrest
    . split
      . exact readFraction?_point (by decide) (by decide) (by omega) (by omega) hrest
      . exact readFraction?_point (by decide) (by decide) h (Nat.mul_one nanos) hrest

/-! ### Records -/

/--
An instant is read from the text that is written for it.
-/
theorem readRecord?_render {t : Timestamp} (h : t.IsValid) : readRecord? t.render = some t := by
  have hexists := Timestamp.exists_toFields h.nanos
  have hfields := Timestamp.ofFields_toFields h.nanos
  unfold Timestamp.render
  generalize t.toFields = fields at *
  obtain ⟨⟨year, month, day⟩, hour, minute, second, nanos⟩ := fields
  have hcheck : Timestamp.checkFields? ⟨⟨year, month, day⟩, hour, minute, second, nanos⟩ = some t := by
    unfold Timestamp.checkFields?
    rw [if_pos hexists, hfields]
  simp only [Timestamp.Fields.exists, Date.exists, Bool.and_eq_true, decide_eq_true_eq] at hexists
  have hdays := daysInMonth_le year month
  have hfraction : readFraction? (Timestamp.showFraction nanos ++ ['Z']) = some (nanos, ['Z']) :=
    readFraction?_showFraction hexists.2 (endsDigits_cons rfl _) (by decide)
  have hdash (rest : List Char) : readMark? '-' ('-' :: rest) = some rest := readMark?_cons rfl rest
  have hcolon (rest : List Char) : readMark? ':' (':' :: rest) = some rest := readMark?_cons rfl rest
  simp only [List.append_assoc, List.cons_append]
  unfold readRecord?
  refine Option.bind_eq_some_iff.mpr ⟨_, readYear?_showYear year (endsDigits_cons rfl _), ?_⟩
  refine Option.bind_eq_some_iff.mpr ⟨_, hdash _, ?_⟩
  refine Option.bind_eq_some_iff.mpr ⟨_, readSmall?_showPadded (show month < 100 by omega) _, ?_⟩
  refine Option.bind_eq_some_iff.mpr ⟨_, hdash _, ?_⟩
  refine Option.bind_eq_some_iff.mpr ⟨_, readSmall?_showPadded (show day < 100 by omega) _, ?_⟩
  -- The letter between date and time is one of those that may stand there.
  refine Option.bind_eq_some_iff.mpr ⟨_, rfl, ?_⟩
  refine Option.bind_eq_some_iff.mpr ⟨_, readSmall?_showPadded (show hour < 100 by omega) _, ?_⟩
  refine Option.bind_eq_some_iff.mpr ⟨_, hcolon _, ?_⟩
  refine Option.bind_eq_some_iff.mpr ⟨_, readSmall?_showPadded (show minute < 100 by omega) _, ?_⟩
  refine Option.bind_eq_some_iff.mpr ⟨_, hcolon _, ?_⟩
  refine Option.bind_eq_some_iff.mpr ⟨_, readSmall?_showPadded (show second < 100 by omega) _, ?_⟩
  refine Option.bind_eq_some_iff.mpr ⟨_, hfraction, ?_⟩
  refine Option.bind_eq_some_iff.mpr ⟨(0, []), rfl, ?_⟩
  refine Option.bind_eq_some_iff.mpr ⟨t, hcheck, ?_⟩
  have hbehind : t.behind 0 = t := by simp [Timestamp.behind]
  simp [hbehind, h.inRange]

end WafWatch.Time
