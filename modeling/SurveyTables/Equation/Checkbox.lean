import SurveyTables.Dataset
import SurveyTables.Equation.Expression

/-!
# Checkbox columns

A question with several answers is often stored as one column for each option, `S7r1`, `S7r2` and so
on, which holds `1` where the option was checked. Equations still say `S7=2`.

* `Condition.toCheckbox` : such a condition becomes `S7r2=1` if the dataset has no column `S7` but
  has the column `S7r2`;
* `Expression.toCheckbox` : the same for every condition of an expression.
-/

namespace SurveyTables

/-- The text is a nonempty run of ASCII digits. -/
def isOptionNumber (s : String) : Bool := s != "" && s.toList.all Char.isDigit

def Condition.toCheckbox (d : Dataset) (c : Condition) : Condition :=
  match c.operand with
  | .scalar option =>
    if c.operator.isEquality && isOptionNumber option && !d.hasColumn c.code &&
        d.hasColumn (c.code ++ "r" ++ option) then
      ⟨c.code ++ "r" ++ option, c.operator, .scalar "1"⟩
    else c
  | _ => c

def Expression.toCheckbox (d : Dataset) (e : Expression) : Expression :=
  e.mapConditions (Condition.toCheckbox d)

end SurveyTables
