/-!
# Points in time

A `Timestamp` counts seconds from the start of 1970, in universal time. The calendar is the
Gregorian one, extended to all years.

* `Calendar.daysOfDate`, `Calendar.dateOfDays` : dates and days counted from 1970;
* `Calendar.weekday`, `Calendar.ordinal`, `Calendar.isoWeek` : the place of a date in its week and
  year;
* `Timestamp.date`, `Timestamp.hour`, … : the parts of a timestamp. A leap second is the last second
  of its minute with a thousand million nanoseconds or more.
-/

namespace SurveyTables

/-- A day of the calendar. -/
structure Date where
  year : Int
  month : Nat
  day : Nat
  deriving DecidableEq, Repr

namespace Calendar

/-- The days of four centuries. -/
def daysPerEra : Int := 146097

/-- The days from the first of March of year zero to the start of 1970. -/
def epochOffset : Int := 719468

/-- The days from the start of 1970 to a date. Years are counted from March, so that a leap day is
the last day of its year. -/
def daysOfDate (d : Date) : Int :=
  let year := if d.month ≤ 2 then d.year - 1 else d.year
  let yearOfEra := year % 400
  let monthFromMarch := (d.month + 9) % 12
  let dayOfYear : Int := (153 * monthFromMarch + 2) / 5 + d.day - 1
  let dayOfEra := yearOfEra * 365 + yearOfEra / 4 - yearOfEra / 100 + dayOfYear
  year / 400 * daysPerEra + dayOfEra - epochOffset

def dateOfDays (days : Int) : Date :=
  let shifted := days + epochOffset
  let dayOfEra := shifted % daysPerEra
  let yearOfEra := (dayOfEra - dayOfEra / 1460 + dayOfEra / 36524 - dayOfEra / 146096) / 365
  let dayOfYear := (dayOfEra - (365 * yearOfEra + yearOfEra / 4 - yearOfEra / 100)).toNat
  let monthFromMarch := (5 * dayOfYear + 2) / 153
  let month := if monthFromMarch < 10 then monthFromMarch + 3 else monthFromMarch - 9
  let year := yearOfEra + shifted / daysPerEra * 400
  ⟨if month ≤ 2 then year + 1 else year, month, dayOfYear - (153 * monthFromMarch + 2) / 5 + 1⟩

/-- The year has a leap day. -/
def isLeap (year : Int) : Bool :=
  decide (year % 4 = 0) && (decide (year % 100 ≠ 0) || decide (year % 400 = 0))

/-- The days of a month. -/
def daysInMonth (year : Int) (month : Nat) : Nat :=
  if month = 2 then (if isLeap year then 29 else 28)
  else if month = 4 ∨ month = 6 ∨ month = 9 ∨ month = 11 then 30
  else 31

/-- The date exists. -/
def isValid (d : Date) : Bool :=
  decide (1 ≤ d.month) && decide (d.month ≤ 12) && decide (1 ≤ d.day) &&
    decide (d.day ≤ daysInMonth d.year d.month)

def weekday (d : Date) : Nat := ((daysOfDate d + 4) % 7).toNat

def ordinal (d : Date) : Nat := (daysOfDate d - daysOfDate ⟨d.year, 1, 1⟩).toNat + 1

/-- The day of the week, from Monday, which is one. -/
def isoWeekday (d : Date) : Nat := if weekday d = 0 then 7 else weekday d

def isoWeek (d : Date) : Int × Nat :=
  let thursday := dateOfDays (daysOfDate d + 4 - isoWeekday d)
  (thursday.year, (ordinal thursday - 1) / 7 + 1)

/-- The number of Sundays in the year up to the date. -/
def sundayWeek (d : Date) : Nat := (ordinal d + 6 - weekday d) / 7

end Calendar

/-- A point in time: seconds from the start of 1970 in universal time, and nanoseconds. -/
structure Timestamp where
  seconds : Int
  nanos : Nat
  deriving DecidableEq, Repr

namespace Timestamp

/-- The point a whole number of seconds after the start of 1970. -/
def ofSeconds (s : Int) : Timestamp := ⟨s, 0⟩

/-- The number of nanoseconds in a second. -/
def nanosPerSecond : Nat := 1000000000

def date (t : Timestamp) : Date := Calendar.dateOfDays (t.seconds / 86400)

/-- The second of the day. -/
def secondOfDay (t : Timestamp) : Nat := (t.seconds % 86400).toNat

def hour (t : Timestamp) : Nat := t.secondOfDay / 3600

/-- The hour of a clock face. -/
def hour12 (t : Timestamp) : Nat := if t.hour % 12 = 0 then 12 else t.hour % 12

/-- The hour is in the second half of the day. -/
def isAfternoon (t : Timestamp) : Bool := decide (12 ≤ t.hour)

/-- The minute of the hour. -/
def minute (t : Timestamp) : Nat := t.secondOfDay / 60 % 60

/-- The second of the minute, which is sixty in a leap second. -/
def second (t : Timestamp) : Nat := t.secondOfDay % 60 + t.nanos / nanosPerSecond

/-- The nanoseconds of the second. -/
def subsecond (t : Timestamp) : Nat := t.nanos % nanosPerSecond

end Timestamp

end SurveyTables
