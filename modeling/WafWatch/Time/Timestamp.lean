import WafWatch.Time.Calendar
import WafWatch.Text.Numeral

/-!
This module holds instants of time in UTC and their written form. A leap second is the second before
it with at least a whole second of nanoseconds, so that instants are ordered by their two fields.
-/

namespace WafWatch.Time

/--
An instant: whole seconds since 1970-01-01T00:00:00Z and the nanoseconds past them, which from one
second on are those of a leap second.
-/
structure Timestamp where
  seconds : Int
  nanos : Nat := 0
  deriving DecidableEq, Repr, Inhabited

def nanosPerSecond : Nat := 1000000000

def secondsPerDay : Int := 86400

/--
The years that instants may lie in.
-/
def firstYear : Int := -262143

@[inherit_doc firstYear]
def lastYear : Int := 262142

namespace Timestamp

def le (a b : Timestamp) : Bool :=
  a.seconds < b.seconds || (a.seconds == b.seconds && a.nanos ≤ b.nanos)

/--
The day, the hour, the minute and the second of an instant, where a leap second is second 60.
-/
structure Fields where
  date : Date
  hour : Nat
  minute : Nat
  second : Nat
  nanos : Nat
  deriving DecidableEq, Repr

/--
The hour, minute and second exist; the second may be a leap second.
-/
def Fields.exists (fields : Fields) : Bool :=
  fields.date.exists && fields.hour ≤ 23 && fields.minute ≤ 59 && fields.second ≤ 60 &&
    fields.nanos < nanosPerSecond

def ofFields (fields : Fields) : Timestamp :=
  let leap := fields.second == 60
  let second := if leap then 59 else fields.second
  { seconds := fields.date.dayNumber * secondsPerDay +
      (fields.hour * 3600 + fields.minute * 60 + second : Nat)
    nanos := if leap then nanosPerSecond + fields.nanos else fields.nanos }

def toFields (t : Timestamp) : Fields :=
  let second := (t.seconds % secondsPerDay).toNat
  { date := Date.ofDayNumber (t.seconds / secondsPerDay)
    hour := second / 3600
    minute := second / 60 % 60
    second := second % 60 + t.nanos / nanosPerSecond
    nanos := t.nanos % nanosPerSecond }

def inRange (t : Timestamp) : Bool :=
  let year := (Date.ofDayNumber (t.seconds / secondsPerDay)).year
  firstYear ≤ year && year ≤ lastYear

/--
The instant that a clock which is ahead of UTC by `offset` seconds shows as `t`.
-/
def behind (t : Timestamp) (offset : Int) : Timestamp :=
  { t with seconds := t.seconds - offset }

/--
A year has four digits; outside of 0 to 9999 it has a sign and at least four digits.
-/
def showYear (year : Int) : List Char :=
  if 0 ≤ year && year ≤ 9999 then Text.showPadded 4 year.toNat
  else (if year < 0 then '-' else '+') :: Text.showPadded 4 year.natAbs

/--
A fraction of a second has the fewest of 0, 3, 6 and 9 digits that are exact.
-/
def showFraction (nanos : Nat) : List Char :=
  if nanos == 0 then []
  else if nanos % 1000000 == 0 then '.' :: Text.showPadded 3 (nanos / 1000000)
  else if nanos % 1000 == 0 then '.' :: Text.showPadded 6 (nanos / 1000)
  else '.' :: Text.showPadded 9 nanos

/--
The written form of an instant: date, `T`, time of day with its fraction, and `Z`.
-/
def render (t : Timestamp) : List Char :=
  let fields := t.toFields
  showYear fields.date.year ++ '-' :: Text.showPadded 2 fields.date.month ++
    '-' :: Text.showPadded 2 fields.date.day ++
    'T' :: Text.showPadded 2 fields.hour ++ ':' :: Text.showPadded 2 fields.minute ++
    ':' :: Text.showPadded 2 fields.second ++ showFraction fields.nanos ++ ['Z']

end Timestamp

end WafWatch.Time
