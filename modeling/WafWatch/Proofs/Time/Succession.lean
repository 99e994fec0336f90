import Mathlib.Data.Int.Init
import WafWatch.Proofs.Time.Calendar
import WafWatch.Time.Timestamp

/-!
This module contains the calendar as it is counted: every date has one that comes next, and the number of a day is
what counting from 1970-01-01 gives, forwards and backwards. From this it is said which instant a date and a time of
day name, without the arithmetic of years and months.
-/

namespace WafWatch.Time

namespace Date

def next (date : Date) : Date :=
  if date.day < daysInMonth date.year date.month then ⟨date.year, date.month, date.day + 1⟩
  else if date.month < 12 then ⟨date.year, date.month + 1, 1⟩
  else ⟨date.year + 1, 1, 1⟩

/--
Counting day by day from 1970-01-01 gives the date this number.
-/
inductive Counted : Date → Int → Prop where
  | epoch : Counted ⟨1970, 1, 1⟩ 0
  | next {date : Date} {number : Int} (h : Counted date number) : Counted date.next (number + 1)
  | previous {date : Date} {number : Int} (hexists : date.exists = true)
    (h : Counted date.next (number + 1)) :
    Counted date number

variable {date : Date} {number : Int}

theorem exists_iff {year : Int} {month day : Nat}
    : (⟨year, month, day⟩ : Date).exists = true
        ↔
      1 ≤ month ∧ month ≤ 12 ∧ 1 ≤ day ∧ day ≤ daysInMonth year month := by
  simp only [«exists», Bool.and_eq_true, decide_eq_true_eq, and_assoc]

theorem daysInMonth_pos (year : Int) (month : Nat) : 1 ≤ daysInMonth year month := by
  unfold daysInMonth
  split
  . split <;> decide
  all_goals decide

theorem exists_next (h : date.exists = true) : date.next.exists = true := by
  obtain ⟨year, month, day⟩ := date
  rw [exists_iff] at h
  unfold next
  dsimp only
  split
  . rw [exists_iff]
    omega
  . split
    . have hday := daysInMonth_pos year (month + 1)
      rw [exists_iff]
      omega
    . have hday := daysInMonth_pos (year + 1) 1
      rw [exists_iff]
      omega

/-! ### Numbers of days -/

theorem daysBeforeMonth_succ : ∀ month < 13, 3 ≤ month →
    daysBeforeMonth (month - 3 + 1) = daysBeforeMonth (month - 3) + daysInMonth 0 month := by
  decide +kernel

theorem dayNumber_succ (year : Int) (month day : Nat) :
    (⟨year, month, day + 1⟩ : Date).dayNumber = (⟨year, month, day⟩ : Date).dayNumber + 1 := by
  unfold dayNumber
  dsimp only
  omega

theorem dayNumber_first_of_month {month : Nat} (year : Int) (hfirst : 1 ≤ month) (hlast : month < 12) :
    (⟨year, month + 1, 1⟩ : Date).dayNumber
      = (⟨year, month, daysInMonth year month⟩ : Date).dayNumber + 1 := by
  unfold dayNumber
  dsimp only
  by_cases hwinter : month ≤ 2
  . obtain rfl | rfl : month = 1 ∨ month = 2 := by omega
    . have hjanuary : daysInMonth year 1 = 31 := rfl
      have hbefore : daysBeforeMonth 11 = daysBeforeMonth 10 + 31 := rfl
      rw [hjanuary]
      simp only [Nat.reduceAdd, Nat.reduceLeDiff, if_true, hbefore]
      omega
    . -- March begins after the last day of February, which depends on the year.
      have hyear := daysBeforeMarch_add_one (year - 1)
      rw [Int.sub_add_cancel] at hyear
      have hmarch : daysBeforeMonth 0 = 0 := rfl
      have hfebruary : daysBeforeMonth 11 = 337 := rfl
      simp only [Nat.reduceAdd, Nat.reduceLeDiff, if_true, if_false, Nat.reduceSub, hmarch, hfebruary]
      omega
  . have hmonth := daysBeforeMonth_succ month (by omega) (by omega)
    have hlater : ¬month + 1 ≤ 2 := by omega
    have hindex : month + 1 - 3 = month - 3 + 1 := by omega
    rw [if_neg hwinter, if_neg hwinter, if_neg hlater, if_neg hlater, hindex, hmonth,
      daysInMonth_of_ne_two (by omega) year]
    omega

theorem dayNumber_first_of_year (year : Int) :
    (⟨year + 1, 1, 1⟩ : Date).dayNumber = (⟨year, 12, 31⟩ : Date).dayNumber + 1 := by
  have hbefore : daysBeforeMonth 10 = daysBeforeMonth 9 + 31 := rfl
  unfold dayNumber
  simp only [Nat.reduceAdd, Nat.reduceLeDiff, if_true, if_false, Nat.reduceSub, hbefore, Int.add_sub_cancel]
  omega

theorem dayNumber_next (h : date.exists = true) : date.next.dayNumber = date.dayNumber + 1 := by
  obtain ⟨year, month, day⟩ := date
  rw [exists_iff] at h
  obtain ⟨hfirst, hlast, -, hlength⟩ := h
  unfold next
  dsimp only
  split
  . exact dayNumber_succ year month day
  . obtain rfl : day = daysInMonth year month := by omega
    split
    . next hmonth => exact dayNumber_first_of_month year hfirst hmonth
    . obtain rfl : month = 12 := by omega
      exact dayNumber_first_of_year year

theorem eq_of_dayNumber_eq {other : Date} (h : date.exists = true) (hother : other.exists = true)
    (hnumber : date.dayNumber = other.dayNumber)
    : date = other := by
  rw [← ofDayNumber_dayNumber h, hnumber, ofDayNumber_dayNumber hother]

/--
Counting reaches the dates that exist, and gives each of them its number.
-/
theorem counted_iff : date.Counted number ↔ date.exists = true ∧ date.dayNumber = number := by
  constructor
  . intro h
    induction h with
    | epoch => exact ⟨rfl, rfl⟩
    | next h ih =>
      obtain ⟨hexists, rfl⟩ := ih
      exact ⟨exists_next hexists, dayNumber_next hexists⟩
    | previous hexists h ih =>
      refine ⟨hexists, ?_⟩
      have hnext := dayNumber_next hexists
      omega
  . rintro ⟨hexists, rfl⟩
    induction hnumber : date.dayNumber using Int.induction_on generalizing date with
    | zero =>
      rw [eq_of_dayNumber_eq hexists (show (⟨1970, 1, 1⟩ : Date).exists = true from rfl) hnumber]
      exact .epoch
    | succ number ih =>
      have hbefore := dayNumber_ofDayNumber number
      have hprevious := ih (exists_ofDayNumber number) hbefore
      have hnext := dayNumber_next (exists_ofDayNumber number)
      rw [hbefore, ← hnumber] at hnext
      rw [← eq_of_dayNumber_eq (exists_next (exists_ofDayNumber number)) hexists hnext]
      exact .next hprevious
    | pred number ih =>
      have hnext := dayNumber_next hexists
      rw [hnumber, Int.sub_add_cancel] at hnext
      refine .previous hexists ?_
      rw [Int.sub_add_cancel]
      exact ih (exists_next hexists) hnext

end Date

/-! ### Instants -/

namespace Timestamp.Fields

/--
The fields name the instant in UTC. A leap second is the second before it with a second more of nanoseconds.
-/
structure Names (fields : Fields) (t : Timestamp) : Prop where
  seconds_eq : ∃ number, fields.date.Counted number
    ∧ t.seconds = number * 86400 + (fields.hour * 3600 + fields.minute * 60 + min fields.second 59 : Nat)
  nanos_eq : t.nanos = (if fields.second = 60 then 1000000000 else 0) + fields.nanos

variable {fields : Fields} {t : Timestamp}

theorem date_exists (h : fields.exists = true) : fields.date.exists = true := by
  simp only [«exists», Bool.and_eq_true] at h
  exact h.1.1.1.1

theorem second_le (h : fields.exists = true) : fields.second ≤ 60 := by
  simp only [«exists», Bool.and_eq_true, decide_eq_true_eq] at h
  exact h.1.2

theorem names_iff (h : fields.exists = true) : fields.Names t ↔ ofFields fields = t := by
  have hsecond := second_le h
  obtain ⟨seconds, nanos⟩ := t
  have hshown : min fields.second 59 = if fields.second = 60 then 59 else fields.second := by
    split <;> omega
  have hnanos : (if fields.second = 60 then 1000000000 else 0) + fields.nanos
      = if fields.second = 60 then 1000000000 + fields.nanos else fields.nanos := by
    split <;> omega
  unfold ofFields secondsPerDay nanosPerSecond
  simp only [beq_iff_eq, Timestamp.mk.injEq, ← hshown, ← hnanos]
  constructor
  . rintro ⟨⟨number, hcounted, hseconds⟩, hnanos⟩
    obtain ⟨-, rfl⟩ := Date.counted_iff.mp hcounted
    exact ⟨hseconds.symm, hnanos.symm⟩
  . rintro ⟨rfl, rfl⟩
    exact ⟨⟨_, Date.counted_iff.mpr ⟨date_exists h, rfl⟩, rfl⟩, rfl⟩

end Timestamp.Fields

end WafWatch.Time
