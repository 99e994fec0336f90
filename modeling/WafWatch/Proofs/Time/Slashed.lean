import Mathlib.Data.List.Basic
import WafWatch.Proofs.Text.Scan
import WafWatch.Proofs.Time.Record

/-!
This module contains the written form of the times at the start of log lines: such a time is read as the instant
that shows it in UTC.
-/

namespace WafWatch.Time

open WafWatch.Text

/--
The written form `YYYY/MM/DD hh:mm:ss`.
-/
def Timestamp.Fields.slashed (fields : Timestamp.Fields) : List Char :=
  showPadded 4 fields.date.year.toNat ++ '/' :: showPadded 2 fields.date.month ++
    '/' :: showPadded 2 fields.date.day ++ ' ' :: showPadded 2 fields.hour ++
    ':' :: showPadded 2 fields.minute ++ ':' :: showPadded 2 fields.second

/--
The fields are those of a time that can be written so.
-/
structure Timestamp.Fields.IsWritable (fields : Timestamp.Fields) : Prop where
  exists_eq : fields.exists = true
  year_nonneg : 0 ≤ fields.date.year
  year_le : fields.date.year ≤ 9999
  nanos_eq : fields.nanos = 0

/--
There is room for every field in its digits, whether there is such a time or not.
-/
structure Timestamp.Fields.Fits (fields : Timestamp.Fields) : Prop where
  year_nonneg : 0 ≤ fields.date.year
  year_lt : fields.date.year.toNat < 10 ^ 4
  month_lt : fields.date.month < 10 ^ 2
  day_lt : fields.date.day < 10 ^ 2
  hour_lt : fields.hour < 10 ^ 2
  minute_lt : fields.minute < 10 ^ 2
  second_lt : fields.second < 10 ^ 2
  nanos_eq : fields.nanos = 0

theorem Timestamp.Fields.IsWritable.fits {fields : Timestamp.Fields} (h : fields.IsWritable) : fields.Fits := by
  obtain ⟨hexists, hnonneg, hyear, hnanos⟩ := h
  simp only [Timestamp.Fields.exists, Date.exists, Bool.and_eq_true, decide_eq_true_eq] at hexists
  have hdays := daysInMonth_le fields.date.year fields.date.month
  constructor
  . exact hnonneg
  all_goals omega

theorem Timestamp.Fields.Fits.isWritable {fields : Timestamp.Fields} (h : fields.Fits) (hexists : fields.exists = true)
    : fields.IsWritable where
  exists_eq := hexists
  year_nonneg := h.year_nonneg
  year_le := by
    have hyear := h.year_lt
    omega
  nanos_eq := h.nanos_eq

theorem Timestamp.Fields.Fits.length_slashed {fields : Timestamp.Fields} (h : fields.Fits) :
    fields.slashed.length = 19 := by
  simp [slashed, length_showPadded (by decide : 0 < 4) h.year_lt, length_showPadded (by decide : 0 < 2) h.month_lt,
    length_showPadded (by decide : 0 < 2) h.day_lt, length_showPadded (by decide : 0 < 2) h.hour_lt,
    length_showPadded (by decide : 0 < 2) h.minute_lt, length_showPadded (by decide : 0 < 2) h.second_lt]

/-! ### Parts -/

variable {s rest : List Char} {n : Nat}

theorem exists_showPadded_two {n : Nat} (h : n < 10 ^ 2)
    : ∃ a b, showPadded 2 n = [a, b] ∧ isAsciiDigit a = true ∧ isAsciiDigit b = true ∧ ofDigits [a, b] = n := by
  have hlength : (showPadded 2 n).length = 2 := length_showPadded (by decide) h
  obtain ⟨a, b, hdigits⟩ := List.length_eq_two.mp hlength
  have hdigit := (isDigits_showPadded 2 n).digit
  have hvalue := ofDigits_showPadded 2 n
  rw [hdigits] at hdigit hvalue
  exact ⟨a, b, hdigits, hdigit a (by simp), hdigit b (by simp), hvalue⟩

theorem readTwo?_eq_some_iff : readTwo? s = some (n, rest) ↔ n < 10 ^ 2 ∧ s = showPadded 2 n ++ rest := by
  constructor
  . intro h
    unfold readTwo? at h
    split at h
    . next a b more =>
      rw [Option.ite_none_right_eq_some, Bool.and_eq_true, Option.some.injEq, Prod.mk.injEq] at h
      obtain ⟨⟨ha, hb⟩, rfl, rfl⟩ := h
      have hdigits : IsDigits [a, b] := ⟨nofun, by simp [ha, hb]⟩
      exact ⟨ofDigits_lt hdigits.digit, congrArg (· ++ more) (showPadded_ofDigits hdigits).symm⟩
    . contradiction
  . rintro ⟨hn, rfl⟩
    obtain ⟨a, b, hdigits, ha, hb, hvalue⟩ := exists_showPadded_two hn
    simp [hdigits, readTwo?, ha, hb, hvalue]

theorem showPadded_four {high low : Nat} (hhigh : high < 10 ^ 2) (hlow : low < 10 ^ 2) :
    showPadded 4 (high * 100 + low) = showPadded 2 high ++ showPadded 2 low := by
  have hhighLength : (showPadded 2 high).length = 2 := length_showPadded (by decide) hhigh
  have hlowLength : (showPadded 2 low).length = 2 := length_showPadded (by decide) hlow
  have hdigits : IsDigits (showPadded 2 high ++ showPadded 2 low) := by
    refine ⟨by simp [(isDigits_showPadded 2 high).ne_nil], ?_⟩
    rw [List.forall_mem_append]
    exact ⟨(isDigits_showPadded 2 high).digit, (isDigits_showPadded 2 low).digit⟩
  have hwritten := showPadded_ofDigits hdigits
  rw [ofDigits_append, ofDigits_showPadded, ofDigits_showPadded, List.length_append, hlowLength,
    hhighLength] at hwritten
  exact hwritten

theorem readFour?_eq_some_iff : readFour? s = some (n, rest) ↔ n < 10 ^ 4 ∧ s = showPadded 4 n ++ rest := by
  unfold readFour?
  simp only [Option.bind_eq_bind, Option.bind_eq_some_iff, Prod.exists, Option.pure_def, Option.some.injEq,
    Prod.mk.injEq, readTwo?_eq_some_iff]
  constructor
  . rintro ⟨high, _, ⟨hhigh, rfl⟩, low, _, ⟨hlow, rfl⟩, rfl, rfl⟩
    refine ⟨by omega, ?_⟩
    rw [showPadded_four hhigh hlow, List.append_assoc]
  . rintro ⟨hn, rfl⟩
    have hsplit : n / 100 * 100 + n % 100 = n := Nat.div_add_mod' n 100
    have hhigh : n / 100 < 10 ^ 2 := by omega
    have hlow : n % 100 < 10 ^ 2 := Nat.mod_lt n (by decide)
    refine ⟨n / 100, showPadded 2 (n % 100) ++ rest, ⟨hhigh, ?_⟩, n % 100, rest, ⟨hlow, rfl⟩, hsplit, rfl⟩
    rw [← List.append_assoc, ← showPadded_four hhigh hlow, hsplit]

theorem readClock?_eq_some_iff {hour minute second : Nat}
    : readClock? s = some ((hour, minute, second), rest)
        ↔
      (hour < 10 ^ 2 ∧ minute < 10 ^ 2 ∧ second < 10 ^ 2)
        ∧ s = showPadded 2 hour ++ ':' :: (showPadded 2 minute ++ ':' :: (showPadded 2 second ++ rest)) := by
  unfold readClock?
  simp only [Option.bind_eq_bind, Option.bind_eq_some_iff, Prod.exists, Option.pure_def, Option.some.injEq,
    Prod.mk.injEq, readTwo?_eq_some_iff, afterPrefix?_eq_some_iff]
  constructor
  . rintro ⟨_, _, ⟨hhour, rfl⟩, _, rfl, _, _, ⟨hminute, rfl⟩, _, rfl, _, _, ⟨hsecond, rfl⟩, ⟨rfl, rfl, rfl⟩, rfl⟩
    exact ⟨⟨hhour, hminute, hsecond⟩, rfl⟩
  . rintro ⟨⟨hhour, hminute, hsecond⟩, rfl⟩
    exact ⟨_, _, ⟨hhour, rfl⟩, _, rfl, _, _, ⟨hminute, rfl⟩, _, rfl, _, _, ⟨hsecond, rfl⟩, ⟨rfl, rfl, rfl⟩, rfl⟩

theorem checkFields?_eq_some_iff {fields : Timestamp.Fields} {t : Timestamp} :
    Timestamp.checkFields? fields = some t ↔ fields.exists = true ∧ .ofFields fields = t := by
  unfold Timestamp.checkFields?
  rw [Option.ite_none_right_eq_some, Option.some.injEq]

/-! ### Times -/

/--
The texts that are read are those that are written for times that exist.
-/
theorem readSlashed?_eq_some_iff {t : Timestamp}
    : readSlashed? s = some t
        ↔
      ∃ fields : Timestamp.Fields, fields.Fits ∧ fields.exists = true ∧ s = fields.slashed ∧ .ofFields fields = t := by
  unfold readSlashed?
  simp only [Option.bind_eq_bind, Option.bind_eq_some_iff, Prod.exists, readTwo?_eq_some_iff, readFour?_eq_some_iff,
    readClock?_eq_some_iff, afterPrefix?_eq_some_iff, Option.ite_none_right_eq_some, List.isEmpty_iff,
    checkFields?_eq_some_iff]
  constructor
  . rintro ⟨year, _, ⟨hyear, rfl⟩, _, rfl, month, _, ⟨hmonth, rfl⟩, _, rfl, day, _, ⟨hday, rfl⟩, _, rfl,
      hour, minute, second, _, ⟨⟨hhour, hminute, hsecond⟩, rfl⟩, rfl, hexists, rfl⟩
    refine ⟨⟨⟨year, month, day⟩, hour, minute, second, 0⟩, ?_, hexists, ?_, rfl⟩
    . exact ⟨Int.natCast_nonneg year, hyear, hmonth, hday, hhour, hminute, hsecond, rfl⟩
    . simp [Timestamp.Fields.slashed]
  . rintro ⟨⟨⟨year, month, day⟩, hour, minute, second, nanos⟩, hfits, hexists, rfl, rfl⟩
    obtain ⟨hnonneg, hyear, hmonth, hday, hhour, hminute, hsecond, rfl⟩ := hfits
    refine ⟨year.toNat, _, ⟨hyear, ?_⟩, _, rfl, month, _, ⟨hmonth, rfl⟩, _, rfl, day, _, ⟨hday, rfl⟩, _, rfl,
      hour, minute, second, [], ⟨⟨hhour, hminute, hsecond⟩, rfl⟩, rfl, ?_⟩
    . simp [Timestamp.Fields.slashed]
    . rw [Int.toNat_of_nonneg hnonneg]
      exact ⟨hexists, rfl⟩

/--
A text begins with no more than one time.
-/
theorem Timestamp.Fields.Fits.eq {fields fields' : Timestamp.Fields} {rest rest' : List Char} (h : fields.Fits)
    (h' : fields'.Fits) (hsame : fields.slashed ++ rest = fields'.slashed ++ rest')
    : fields = fields' := by
  simp only [slashed, List.append_assoc, List.cons_append] at hsame
  obtain ⟨hyear, hsame⟩ := showPadded_append_cons_inj (by decide) h.year_lt h'.year_lt hsame
  obtain ⟨hmonth, hsame⟩ := showPadded_append_cons_inj (by decide) h.month_lt h'.month_lt hsame
  obtain ⟨hday, hsame⟩ := showPadded_append_cons_inj (by decide) h.day_lt h'.day_lt hsame
  obtain ⟨hhour, hsame⟩ := showPadded_append_cons_inj (by decide) h.hour_lt h'.hour_lt hsame
  obtain ⟨hminute, hsame⟩ := showPadded_append_cons_inj (by decide) h.minute_lt h'.minute_lt hsame
  obtain ⟨hsecond, -⟩ := showPadded_append_inj (by decide) h.second_lt h'.second_lt hsame
  obtain ⟨hnonneg, -, -, -, -, -, -, hnanos⟩ := h
  obtain ⟨hnonneg', -, -, -, -, -, -, hnanos'⟩ := h'
  obtain ⟨⟨year, month, day⟩, hour, minute, second, nanos⟩ := fields
  obtain ⟨⟨year', month', day'⟩, hour', minute', second', nanos'⟩ := fields'
  dsimp only at *
  rw [Timestamp.Fields.mk.injEq, Date.mk.injEq]
  omega

end WafWatch.Time
