import SurveyTables.Decimal.Basic

/-!
# Reading number texts

The text of a number: an optional sign, then either one of the words `inf`, `infinity` and `nan` in
any case, or digits with an optional point among, before or after them and an optional exponent.

* `Decimal.ofDigits` : the number written by digits before and after a point and an exponent;
* `readExponent?` : the exponent part, up to the end of the text;
* `readMagnitude?`, `readFloat?` : the whole text, without and with its sign.
-/

namespace SurveyTables.Decimal

def ofDigits (whole places : List Char) (e : Int) : Decimal :=
  ⟨Nat.ofDigitChars 10 (whole ++ places) 0, e - places.length⟩

/-- An unsigned digit string, at least one digit long and nothing else. -/
def readNat? (s : List Char) : Option Nat :=
  if s ≠ [] && s.all Char.isDigit then some (Nat.ofDigitChars 10 s 0) else none

def readExponent? : List Char → Option Int
  | [] => some 0
  | c :: s =>
    if c = 'e' ∨ c = 'E' then
      match s with
      | '-' :: t => (readNat? t).map fun n => -(n : Int)
      | '+' :: t => (readNat? t).map fun n => (n : Int)
      | t => (readNat? t).map fun n => (n : Int)
    else none

/-- The digits after a point, if the text goes on with one, and what is left. -/
def takePlaces : List Char → List Char × List Char
  | '.' :: t => (t.takeWhile Char.isDigit, t.dropWhile Char.isDigit)
  | t => ([], t)

/-- An unsigned decimal number. -/
def read? (s : List Char) : Option Decimal :=
  let whole := s.takeWhile Char.isDigit
  let p := takePlaces (s.dropWhile Char.isDigit)
  if whole.isEmpty && p.1.isEmpty then none
  else (readExponent? p.2).map (ofDigits whole p.1)

def readMagnitude? (s : List Char) : Option Float :=
  let word := s.map Char.toLower
  if word = "inf".toList ∨ word = "infinity".toList then some (1.0 / 0.0)
  else if word = "nan".toList then some (0.0 / 0.0)
  else (read? s).map toFloat

def readFloat? : List Char → Option Float
  | '-' :: s => (readMagnitude? s).map fun x => -x
  | '+' :: s => readMagnitude? s
  | s => readMagnitude? s

end SurveyTables.Decimal
