import SurveyTables.Decimal.Reader
import SurveyTables.Text.Blank
import SurveyTables.Timestamp.Format

/-!
# Timestamps in RFC 3339

* `Timestamp.rfc3339` : a date, a `T`, a clock time with as many places as it needs, and a `Z`;
* `Timestamp.ofRfc3339?` : reading the same, at any offset from universal time. Blanks may stand
  before each number and mark, a blank may stand for the `T`, and `UTC` for the offset.
-/

namespace SurveyTables.Timestamp

open Text

/-- The places of the second, in groups of three: none, three, six or nine. -/
def subsecondText (nanos : Nat) : List Char :=
  if nanos = 0 then []
  else if nanos % 1000000 = 0 then '.' :: padded '0' 3 (nanos / 1000000)
  else if nanos % 1000 = 0 then '.' :: padded '0' 6 (nanos / 1000)
  else '.' :: padded '0' 9 nanos

def rfc3339 (t : Timestamp) : List Char :=
  t.dateText ++ 'T' :: t.clockText ++ subsecondText t.subsecond ++ ['Z']

/-- A number of one to `width` digits after blanks, and what is left. -/
def takeNumber? (width : Nat) (s : List Char) : Option (Nat × List Char) :=
  let s := trimStart s
  let digits := (s.takeWhile Char.isDigit).take width
  if digits.isEmpty then none
  else some (Nat.ofDigitChars 10 digits 0, s.drop digits.length)

/-- A year after blanks: up to four digits, or a sign and any number of digits. -/
def takeYear? (s : List Char) : Option (Int × List Char) :=
  match trimStart s with
  | '-' :: r =>
    if (r.takeWhile Char.isDigit).isEmpty then none
    else some (-(Nat.ofDigitChars 10 (r.takeWhile Char.isDigit) 0 : Int), r.dropWhile Char.isDigit)
  | '+' :: r =>
    if (r.takeWhile Char.isDigit).isEmpty then none
    else some (Nat.ofDigitChars 10 (r.takeWhile Char.isDigit) 0, r.dropWhile Char.isDigit)
  | r => (takeNumber? 4 r).map fun p => (p.1, p.2)

/-- What is left after a mark, with blanks before it. -/
def dropMark? (mark : Char) (s : List Char) : Option (List Char) :=
  match trimStart s with
  | c :: r => if c = mark then some r else none
  | [] => none

/-- The nanoseconds of a second, if a point follows, and what is left; places after the ninth are
passed over. -/
def takeSubsecond? : List Char → Option (Nat × List Char)
  | '.' :: r =>
    let digits := r.takeWhile Char.isDigit
    if digits.isEmpty then none
    else
      let places := (digits ++ List.replicate 9 '0').take 9
      some (Nat.ofDigitChars 10 places 0, r.dropWhile Char.isDigit)
  | r => some (0, r)

/-- The separator of date and time. -/
def dropSeparator? : List Char → Option (List Char)
  | c :: r => if c = 't' ∨ c = 'T' ∨ c = ' ' then some r else none
  | [] => none

/-- Two digits, and what is left. -/
def takePair? : List Char → Option (Nat × List Char)
  | a :: b :: r =>
    if a.isDigit && b.isDigit then some (Nat.ofDigitChars 10 [a, b] 0, r) else none
  | _ => none

/-- Hours and minutes of an offset, with colons or blanks or nothing between them, in seconds. -/
def takeHoursMinutes? (s : List Char) : Option (Nat × List Char) := do
  let hours ← takePair? s
  let minutes ← takePair? (hours.2.dropWhile fun c => c == ':' || isBlank c)
  if minutes.1 < 60 then some (hours.1 * 3600 + minutes.1 * 60, minutes.2) else none

/-- The offset from universal time in seconds, and what is left. -/
def takeOffset? (s : List Char) : Option (Int × List Char) :=
  let word := (s.take 3).map Char.toUpper
  if word = "UTC".toList then some (0, s.drop 3)
  else
    match s with
    | 'Z' :: r => some (0, r)
    | 'z' :: r => some (0, r)
    | '+' :: r => (takeHoursMinutes? r).map fun p => ((p.1 : Int), p.2)
    | '-' :: r => (takeHoursMinutes? r).map fun p => (-(p.1 : Int), p.2)
    | '−' :: r => (takeHoursMinutes? r).map fun p => (-(p.1 : Int), p.2)
    | _ => none

/-- The first year of the calendar. -/
def firstYear : Int := -262143

/-- The last year of the calendar. -/
def lastYear : Int := 262142

/-- The date lies in a year of the calendar. -/
def isInCalendar (d : Date) : Bool := decide (firstYear ≤ d.year) && decide (d.year ≤ lastYear)

/-- The timestamp of a date, a time of day and an offset, if they exist and the date lies in the
calendar both where the clock stands and in universal time. The sixtieth second is a leap second. -/
def ofParts? (d : Date) (hour minute second nanos : Nat) (offset : Int) : Option Timestamp :=
  let leap := second / 60
  let clock : Nat := hour * 3600 + minute * 60 + (second - leap)
  let t : Timestamp :=
    ⟨Calendar.daysOfDate d * 86400 + clock - offset, nanos + leap * nanosPerSecond⟩
  if isInCalendar d && Calendar.isValid d && decide (hour < 24) && decide (minute < 60) &&
      decide (second ≤ 60) && decide (offset.natAbs < 86400) && isInCalendar t.date then some t
  else none

def ofRfc3339? (text : List Char) : Option Timestamp := do
  let year ← takeYear? text
  let s ← dropMark? '-' year.2
  let month ← takeNumber? 2 s
  let s ← dropMark? '-' month.2
  let day ← takeNumber? 2 s
  let s ← dropSeparator? day.2
  let hour ← takeNumber? 2 s
  let s ← dropMark? ':' hour.2
  let minute ← takeNumber? 2 s
  let s ← dropMark? ':' minute.2
  let second ← takeNumber? 2 s
  let nanos ← takeSubsecond? second.2
  let offset ← takeOffset? (trimStart nanos.2)
  if (trimStart offset.2).isEmpty then
    ofParts? ⟨year.1, month.1, day.1⟩ hour.1 minute.1 second.1 nanos.1 offset.1
  else none

end SurveyTables.Timestamp
