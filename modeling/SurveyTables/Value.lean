import SurveyTables.Text.Blank
import SurveyTables.Decimal.Layout
import SurveyTables.Decimal.Reader

/-!
# Answers

A respondent's answer to one variable.

* `Value.isMissing` : no answer was given, either no value or an empty text;
* `Value.number?` : the answer as a number, if it is one or reads as one;
* `Value.display` : the answer as a text, which is also the code that tables count it under.
-/

namespace SurveyTables

/-- One cell of the data. -/
inductive Value where
  | empty
  | number (x : Float)
  | text (s : String)
  deriving DecidableEq

/-- The number that a text denotes, blanks at its ends aside; never a NaN. -/
def numberOfText? (s : String) : Option Float :=
  (Decimal.readFloat? (Text.trim s.toList)).filter fun x => !x.isNaN

/-- A number as shown in tables and codes: its shortest digits, and zero without a sign. -/
def numberText (x : Float) : String :=
  if x == 0 then "0" else String.ofList (Decimal.plain x)

namespace Value

/-- The cell of a data field: an empty field is no value. -/
def ofField (s : String) : Value := if s = "" then .empty else .text s

def isMissing : Value → Bool
  | .empty => true
  | .number _ => false
  | .text s => decide (s = "")

def number? : Value → Option Float
  | .empty => none
  | .number x => if x.isNaN then none else some x
  | .text s => numberOfText? s

/-- The text given. -/
def text? : Value → Option String
  | .text s => some s
  | _ => none

def display : Value → String
  | .empty => ""
  | .number x => numberText x
  | .text s => s

theorem display_text (s : String) : (Value.text s).display = s := rfl

theorem isMissing_ofField (s : String) : (ofField s).isMissing = decide (s = "") := by
  unfold ofField
  split <;> simp_all [isMissing]

end Value

end SurveyTables
