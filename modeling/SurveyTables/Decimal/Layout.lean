import SurveyTables.Decimal.Shortest

/-!
# Writing numbers

* `insertPoint` : a whole number of units `10 ^ -places` with its point;
* `positional` : a decimal number without an exponent;
* `plain` : a double by its shortest digits, never with an exponent and without `.0`.
-/

namespace SurveyTables.Decimal

/-- The digits of `n` with a point before the last `places` of them; zeros in front keep at least
one digit before the point. -/
def insertPoint (n places : Nat) : List Char :=
  let digits := Nat.toDigits 10 n
  let padded := List.replicate (places + 1 - digits.length) '0' ++ digits
  if places = 0 then padded
  else padded.take (padded.length - places) ++ '.' :: padded.drop (padded.length - places)

def positional (d : Decimal) : List Char :=
  insertPoint (d.coefficient * Nat.pow 10 d.exponent.toNat) (-d.exponent).toNat

/-- A minus sign for a set sign bit. -/
def signText (x : Float) : List Char := if Binary64.isNegative x then ['-'] else []

/-- A double by the fewest digits that read back, without an exponent; of two equally near numbers
the larger magnitude. The sign of zero is kept, and not a number has none. -/
def plain (x : Float) : List Char :=
  if x.isNaN then "NaN".toList
  else if x.isFinite then signText x ++ (shortest .up x).positional
  else signText x ++ "inf".toList

end SurveyTables.Decimal
