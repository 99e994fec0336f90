import WafWatch.Time.Calendar

/-!
This module contains the numbering of days: every number is that of one date, and the date exists; every date that
exists is that of its number.
-/

namespace WafWatch.Time

/-! ### Years of an era -/

/--
The number of days in the years of an era before a year. An era has 400 years, which start in March.
-/
def daysBeforeYear (year : Nat) : Nat :=
  365 * year + year / 4 - year / 100 + year / 400

/--
The number of a day in its era without the leap days before it, so that every year has 365 days.
-/
def levelledDay (day : Nat) : Nat :=
  day - day / 1460 + day / 36524 - day / 146096

theorem levelledDay_le_succ (day : Nat) : levelledDay day ≤ levelledDay (day + 1) := by
  unfold levelledDay
  omega

theorem levelledDay_mono {a b : Nat} (h : a ≤ b) : levelledDay a ≤ levelledDay b := by
  induction h with
  | refl => exact Nat.le_refl _
  | step _ ih => exact Nat.le_trans ih (levelledDay_le_succ _)

theorem levelledDay_daysBeforeYear : ∀ year < 401,
    365 * year ≤ levelledDay (daysBeforeYear year)
      ∧ (0 < year → levelledDay (daysBeforeYear year - 1) < 365 * year) := by
  decide +kernel

/--
A day of an era lies in the year that its levelled number gives.
-/
theorem year_of_day {day : Nat} (h : day < 146097)
    : levelledDay day / 365 < 400
        ∧ daysBeforeYear (levelledDay day / 365) ≤ day
        ∧ day < daysBeforeYear (levelledDay day / 365 + 1) := by
  have hlast : levelledDay day ≤ 145999 := levelledDay_mono (show day ≤ 146096 by omega)
  have hyear : levelledDay day / 365 < 400 := by omega
  refine ⟨hyear, ?_, ?_⟩
  -- On either side, levelling keeps the order of the day and of the first day of a year.
  . rw [← Nat.not_lt]
    intro hbefore
    have hmono := levelledDay_mono (show day ≤ daysBeforeYear (levelledDay day / 365) - 1 by omega)
    have hpositive : 0 < levelledDay day / 365 := by
      rw [Nat.pos_iff_ne_zero]
      intro hzero
      rw [hzero] at hbefore
      exact Nat.not_lt_zero _ hbefore
    have hless := (levelledDay_daysBeforeYear _ (Nat.lt_succ_of_lt hyear)).2 hpositive
    omega
  . rw [← Nat.not_le]
    intro hafter
    have hmono := levelledDay_mono hafter
    have hmore := (levelledDay_daysBeforeYear (levelledDay day / 365 + 1) (by omega)).1
    omega

/-! ### Days of a year -/

theorem month_of_day : ∀ day < 366,
    let month := (5 * day + 2) / 153
    month < 12 ∧ daysBeforeMonth month ≤ day
      ∧ (month ≠ 11 → day - daysBeforeMonth month + 1
          ≤ daysInMonth 0 (if month < 10 then month + 3 else month - 9))
      ∧ (month = 11 ↔ 337 ≤ day) := by
  decide +kernel

theorem daysInMonth_of_ne_two {month : Nat} (h : month ≠ 2) (year : Int) :
    daysInMonth year month = daysInMonth 0 month := by
  unfold daysInMonth
  split <;> first
    | rfl
    | contradiction

theorem daysInMonth_le (year : Int) (month : Nat) : daysInMonth year month ≤ 31 := by
  unfold daysInMonth
  split
  . split <;> decide
  all_goals decide

/-! ### Dates -/

/--
A day in terms of its era, the year and the day of the year.
-/
theorem ofDayNumber_eq (number : Int)
    : ∃ (era : Int) (year day : Nat),
        year < 400 ∧ daysBeforeYear year + day < daysBeforeYear (year + 1)
          ∧ number + epochOffset = 146097 * era + (daysBeforeYear year + day : Nat)
          ∧ Date.ofDayNumber number
            =
          let month := (5 * day + 2) / 153
          { year := if month < 10 then (year : Int) + era * 400 else (year : Int) + era * 400 + 1
            month := if month < 10 then month + 3 else month - 9
            day := day - daysBeforeMonth month + 1 } := by
  have hnumber := Int.emod_add_mul_ediv (number + epochOffset) 146097
  have hlow := Int.emod_nonneg (number + epochOffset) (show (146097 : Int) ≠ 0 by decide)
  have hhigh := Int.emod_lt_of_pos (number + epochOffset) (show (0 : Int) < 146097 by decide)
  obtain ⟨day, hday⟩ := Int.eq_ofNat_of_zero_le hlow
  have hdayOfEra : ((number + epochOffset) % 146097).toNat = day := by omega
  obtain ⟨hyear, hbefore, hafter⟩ := year_of_day (show day < 146097 by omega)
  have hyears : daysBeforeYear (levelledDay day / 365)
      = 365 * (levelledDay day / 365) + levelledDay day / 365 / 4 - levelledDay day / 365 / 100 := by
    unfold daysBeforeYear
    omega
  refine ⟨(number + epochOffset) / 146097, levelledDay day / 365,
    day - daysBeforeYear (levelledDay day / 365), hyear, by omega, by omega, ?_⟩
  rw [hyears, ← hdayOfEra]
  rfl

theorem dayNumber_ofDayNumber (number : Int) : (Date.ofDayNumber number).dayNumber = number := by
  obtain ⟨era, year, day, hyear, hafter, hnumber, hdate⟩ := ofDayNumber_eq number
  have hday : day < 366 := by
    unfold daysBeforeYear at hafter
    omega
  obtain ⟨hmonth, hbefore, -, -⟩ := month_of_day day hday
  rw [hdate]
  unfold Date.dayNumber daysBeforeMarch
  unfold daysBeforeYear at hnumber
  dsimp only at *
  generalize (5 * day + 2) / 153 = month at *
  by_cases hearly : month < 10
  . have hmarch : ¬month + 3 ≤ 2 := by omega
    simp only [if_pos hearly, if_neg hmarch, Nat.add_sub_cancel]
    omega
  . have hjanuary : month - 9 ≤ 2 := by omega
    have hsame : month - 9 + 9 = month := by omega
    simp only [if_neg hearly, if_pos hjanuary, hsame]
    omega

theorem isLeapYear_of_length {year : Nat} (era : Int) (hyear : year < 400)
    (h : daysBeforeYear year + 365 < daysBeforeYear (year + 1))
    : isLeapYear ((year : Int) + era * 400 + 1) = true := by
  unfold daysBeforeYear at h
  unfold isLeapYear
  simp only [Bool.and_eq_true, Bool.or_eq_true, beq_iff_eq, bne_iff_ne]
  omega

theorem exists_ofDayNumber (number : Int) : (Date.ofDayNumber number).exists = true := by
  obtain ⟨era, year, day, hyear, hafter, -, hdate⟩ := ofDayNumber_eq number
  have hday : day < 366 := by
    unfold daysBeforeYear at hafter
    omega
  obtain ⟨hmonth, hbefore, hdays, hlast⟩ := month_of_day day hday
  rw [hdate]
  unfold Date.exists
  simp only [Bool.and_eq_true, decide_eq_true_eq]
  dsimp only at *
  generalize (5 * day + 2) / 153 = month at *
  -- Only the length of February, the last month from March on, depends on the year.
  by_cases hfebruary : month = 11
  . subst hfebruary
    have hbefore : daysBeforeMonth 11 = 337 := rfl
    rw [hbefore]
    refine ⟨⟨⟨by decide, by decide⟩, by omega⟩, ?_⟩
    show day - 337 + 1 ≤ if isLeapYear ((year : Int) + era * 400 + 1) then 29 else 28
    by_cases hlong : day = 365
    . subst hlong
      split
      . decide
      . next hcommon => exact absurd (isLeapYear_of_length era hyear hafter) hcommon
    . split <;> omega
  . have hmonths : (if month < 10 then month + 3 else month - 9) ≠ 2 := by
      split <;> omega
    rw [daysInMonth_of_ne_two hmonths]
    refine ⟨⟨⟨?_, ?_⟩, Nat.le_add_left _ _⟩, hdays hfebruary⟩
    . split <;> omega
    . split <;> omega

/-! ### Days of dates -/

theorem daysBeforeMarch_mono {a b : Int} (h : a ≤ b) : daysBeforeMarch a ≤ daysBeforeMarch b := by
  unfold daysBeforeMarch
  omega

/--
A day that lies in a year and in a month of it, which are counted from March, has its date there.
-/
theorem ofDayNumber_of_lies {year : Int} {month day : Nat} (hday : 1 ≤ day)
    (hmonth : daysBeforeMonth month + day ≤ daysBeforeMonth (month + 1))
    (hyear : daysBeforeMarch year + (daysBeforeMonth month + day : Nat) ≤ daysBeforeMarch (year + 1))
    : Date.ofDayNumber (daysBeforeMarch year + daysBeforeMonth month + day - 1 - epochOffset)
        =
      { year := if month < 10 then year else year + 1
        month := if month < 10 then month + 3 else month - 9
        day } := by
  obtain ⟨era, yearOfEra, dayOfYear, hlast, hafter, hnumber, hdate⟩ :=
    ofDayNumber_eq (daysBeforeMarch year + daysBeforeMonth month + day - 1 - epochOffset)
  have hera : daysBeforeMarch (yearOfEra + era * 400) = 146097 * era + daysBeforeYear yearOfEra := by
    unfold daysBeforeMarch daysBeforeYear
    omega
  have hnext : daysBeforeMarch (yearOfEra + era * 400 + 1) = 146097 * era + daysBeforeYear (yearOfEra + 1) := by
    unfold daysBeforeMarch daysBeforeYear
    omega
  -- No other year has the day.
  have hsame : (yearOfEra + era * 400 : Int) = year := by
    rcases Int.lt_trichotomy (yearOfEra + era * 400) year with hless | hsame | hgreater
    . have hmono := daysBeforeMarch_mono (Int.add_one_le_of_lt hless)
      omega
    . exact hsame
    . have hmono := daysBeforeMarch_mono (Int.add_one_le_of_lt hgreater)
      omega
  have hdayOfYear : dayOfYear = daysBeforeMonth month + day - 1 := by
    rw [hsame] at hera
    omega
  have hmonthOfYear : (5 * dayOfYear + 2) / 153 = month := by
    unfold daysBeforeMonth at *
    omega
  rw [hdate, hsame]
  dsimp only
  rw [hmonthOfYear]
  congr 1
  omega

theorem daysInMonth_two (year : Int) : daysInMonth year 2 = if isLeapYear year then 29 else 28 := rfl

/--
The length of a year that starts in March is decided by the February at its end.
-/
theorem daysBeforeMarch_add_one (year : Int) :
    daysBeforeMarch year + 337 + daysInMonth (year + 1) 2 = daysBeforeMarch (year + 1) := by
  rw [daysInMonth_two]
  unfold daysBeforeMarch isLeapYear
  split
  . next hleap =>
    simp only [Bool.and_eq_true, Bool.or_eq_true, beq_iff_eq, bne_iff_ne] at hleap
    omega
  . next hcommon =>
    simp only [Bool.and_eq_true, Bool.or_eq_true, beq_iff_eq, bne_iff_ne] at hcommon
    omega

theorem daysBeforeMonth_add_daysInMonth : ∀ month < 13, 3 ≤ month →
    daysBeforeMonth (month - 3) + daysInMonth 0 month ≤ daysBeforeMonth (month - 3 + 1)
      ∧ daysBeforeMonth (month - 3 + 1) ≤ 306 := by
  decide +kernel

/--
A date that exists is that of its number.
-/
theorem ofDayNumber_dayNumber {date : Date} (h : date.exists = true) : Date.ofDayNumber date.dayNumber = date := by
  obtain ⟨year, month, day⟩ := date
  simp only [Date.exists, Bool.and_eq_true, decide_eq_true_eq] at h
  obtain ⟨⟨⟨hfirst, hlast⟩, hday⟩, hlength⟩ := h
  unfold Date.dayNumber
  dsimp only
  by_cases hearly : month ≤ 2
  . have hlater : ¬month + 9 < 10 := by omega
    have hyear := daysBeforeMarch_add_one (year - 1)
    rw [Int.sub_add_cancel] at hyear
    have hfebruary : daysInMonth year 2 ≤ 29 := by
      rw [daysInMonth_two]
      split <;> decide
    have hmonth : daysBeforeMonth (month + 9) + day ≤ daysBeforeMonth (month + 9 + 1)
        ∧ daysBeforeMonth (month + 9) + day ≤ 337 + daysInMonth year 2 := by
      obtain rfl | rfl : month = 1 ∨ month = 2 := by omega
      . have hjanuary : daysInMonth year 1 = 31 := rfl
        unfold daysBeforeMonth
        omega
      . unfold daysBeforeMonth
        omega
    rw [if_pos hearly, if_pos hearly, ofDayNumber_of_lies hday hmonth.1, if_neg hlater, if_neg hlater]
    . simp
    . rw [Int.sub_add_cancel]
      omega
  . obtain ⟨hmonth, hwinter⟩ := daysBeforeMonth_add_daysInMonth month (by omega) (by omega)
    have hyear := daysBeforeMarch_add_one year
    have hspring : month - 3 < 10 := by omega
    rw [daysInMonth_of_ne_two (by omega)] at hlength
    rw [if_neg hearly, if_neg hearly, ofDayNumber_of_lies hday (by omega) (by omega), if_pos hspring, if_pos hspring]
    congr 1
    omega

end WafWatch.Time
