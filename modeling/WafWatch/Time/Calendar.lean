/-!
This module contains the civil calendar: the number of a day counted from 1970-01-01, and the date of
a numbered day. Years are counted with a year 0 and negative years before it, and the leap year rule
holds for all of them.
-/

namespace WafWatch.Time

def isLeapYear (year : Int) : Bool :=
  year % 4 == 0 && (year % 100 != 0 || year % 400 == 0)

def daysInMonth (year : Int) (month : Nat) : Nat :=
  match month with
  | 2 => if isLeapYear year then 29 else 28
  | 4 | 6 | 9 | 11 => 30
  | _ => 31

/--
A date of the civil calendar.
-/
structure Date where
  year : Int
  month : Nat
  day : Nat
  deriving DecidableEq, Repr, Inhabited

def Date.exists (date : Date) : Bool :=
  1 ≤ date.month && date.month ≤ 12 && 1 ≤ date.day && date.day ≤ daysInMonth date.year date.month

/--
The number of days before the first of March of a year, counted from the first of March of year 0.
Years that start in March end with the leap day.
-/
def daysBeforeMarch (year : Int) : Int :=
  365 * year + year / 4 - year / 100 + year / 400

/--
The number of days before the first of a month, counted from the first of March; March is month 0.
-/
def daysBeforeMonth (monthFromMarch : Nat) : Nat :=
  (153 * monthFromMarch + 2) / 5

/--
The number of days from 0000-03-01 to 1970-01-01.
-/
def epochOffset : Int := 719468

/--
The number of a day, where 1970-01-01 is day 0.
-/
def Date.dayNumber (date : Date) : Int :=
  let year := if date.month ≤ 2 then date.year - 1 else date.year
  let month := if date.month ≤ 2 then date.month + 9 else date.month - 3
  daysBeforeMarch year + daysBeforeMonth month + date.day - 1 - epochOffset

def Date.ofDayNumber (number : Int) : Date :=
  let day := number + epochOffset
  let era := day / 146097
  let dayOfEra := (day % 146097).toNat
  let yearOfEra :=
    (dayOfEra - dayOfEra / 1460 + dayOfEra / 36524 - dayOfEra / 146096) / 365
  let dayOfYear := dayOfEra - (365 * yearOfEra + yearOfEra / 4 - yearOfEra / 100)
  let month := (5 * dayOfYear + 2) / 153
  let year := (yearOfEra : Int) + era * 400
  { year := if month < 10 then year else year + 1
    month := if month < 10 then month + 3 else month - 9
    day := dayOfYear - daysBeforeMonth month + 1 }

end WafWatch.Time
