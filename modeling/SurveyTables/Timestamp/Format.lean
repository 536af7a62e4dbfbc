import SurveyTables.Timestamp.Basic

/-!
# Timestamps by a pattern

In a pattern a percent sign and a letter stand for a part of the timestamp, and `%-` before a letter
that stands for a number leaves out its padding; all else stands for itself.

* `padded` : a number with at least a given width;
* `yearText` : a year with four digits, or with a sign if that is not enough;
* `Timestamp.number?`, `Timestamp.words?` : the part that a letter stands for;
* `Timestamp.format` : the timestamp by a pattern.
-/

namespace SurveyTables

def padded (fill : Char) (width n : Nat) : List Char :=
  let digits := Nat.toDigits 10 n
  List.replicate (width - digits.length) fill ++ digits

def yearText (year : Int) : List Char :=
  if 0 ≤ year ∧ year ≤ 9999 then padded '0' 4 year.toNat
  else (if year < 0 then '-' else '+') :: padded '0' 4 year.natAbs

/-- The names of the months. -/
def monthNames : List String :=
  ["January", "February", "March", "April", "May", "June", "July", "August", "September",
    "October", "November", "December"]

/-- The names of the days, from Sunday. -/
def weekdayNames : List String :=
  ["Sunday", "Monday", "Tuesday", "Wednesday", "Thursday", "Friday", "Saturday"]

namespace Timestamp

/-- The number that a letter of a pattern stands for, with its padding: the character and the
width. -/
def number? (t : Timestamp) : Char → Option (Char × Nat × Nat)
  | 'm' => some ('0', 2, t.date.month)
  | 'd' => some ('0', 2, t.date.day)
  | 'e' => some (' ', 2, t.date.day)
  | 'H' => some ('0', 2, t.hour)
  | 'k' => some (' ', 2, t.hour)
  | 'I' => some ('0', 2, t.hour12)
  | 'l' => some (' ', 2, t.hour12)
  | 'M' => some ('0', 2, t.minute)
  | 'S' => some ('0', 2, t.second)
  | 'y' => some ('0', 2, (t.date.year % 100).toNat)
  | 'j' => some ('0', 3, Calendar.ordinal t.date)
  | 'U' => some ('0', 2, Calendar.sundayWeek t.date)
  | 'V' => some ('0', 2, (Calendar.isoWeek t.date).2)
  | 'u' => some ('0', 1, Calendar.isoWeekday t.date)
  | _ => none

/-- The century, as a number below 256, by its tens and its ones; the tens from ten on are the
characters after the digits. -/
def centuryText (t : Timestamp) : List Char :=
  let century := (t.date.year / 100 % 256).toNat
  [Char.ofNat ('0'.toNat + century / 10), Nat.digitChar (century % 10)]

/-- A clock time. -/
def clockText (t : Timestamp) : List Char :=
  padded '0' 2 t.hour ++ ':' :: padded '0' 2 t.minute ++ ':' :: padded '0' 2 t.second

/-- A date with dashes, the year first. -/
def dateText (t : Timestamp) : List Char :=
  yearText t.date.year ++ '-' :: padded '0' 2 t.date.month ++ '-' :: padded '0' 2 t.date.day

def words? (t : Timestamp) : Char → Option (List Char)
  | '%' => some ['%']
  | 'Y' => some (yearText t.date.year)
  | 'G' => some (yearText (Calendar.isoWeek t.date).1)
  | 'C' => some t.centuryText
  | 'p' => some (if t.isAfternoon then "PM".toList else "AM".toList)
  | 'P' => some (if t.isAfternoon then "pm".toList else "am".toList)
  | 'B' => some (monthNames.getD (t.date.month - 1) "").toList
  | 'b' => some ((monthNames.getD (t.date.month - 1) "").toList.take 3)
  | 'A' => some (weekdayNames.getD (Calendar.weekday t.date) "").toList
  | 's' => some (toString t.seconds).toList
  | 'Z' => some "UTC".toList
  | 'z' => some "+0000".toList
  | 'T' => some t.clockText
  | 'F' => some t.dateText
  | 'R' => some (padded '0' 2 t.hour ++ ':' :: padded '0' 2 t.minute)
  | 'D' =>
    some (padded '0' 2 t.date.month ++ '/' :: padded '0' 2 t.date.day ++ '/' ::
      padded '0' 2 (t.date.year % 100).toNat)
  | _ => none

/-- The part that a letter stands for; a letter without meaning stands for itself after its percent
sign. -/
def part (t : Timestamp) (letter : Char) : List Char :=
  match t.number? letter with
  | some (fill, width, n) => padded fill width n
  | none => (t.words? letter).getD ['%', letter]

/-- The part that a letter stands for without padding. -/
def barePart (t : Timestamp) (letter : Char) : List Char :=
  match t.number? letter with
  | some (_, _, n) => Nat.toDigits 10 n
  | none => ['%', '-', letter]

def format (t : Timestamp) : List Char → List Char
  | '%' :: '-' :: letter :: r => t.barePart letter ++ format t r
  | '%' :: letter :: r => t.part letter ++ format t r
  | c :: r => c :: format t r
  | [] => []

end Timestamp

end SurveyTables
