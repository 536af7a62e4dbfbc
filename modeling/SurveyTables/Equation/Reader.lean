import SurveyTables.Equation.Between
import SurveyTables.Equation.Expression

/-!
# Reading equations

An equation is a text such as `S1=1 AND Q2=1-9 | AGE BETWEEN 18 AND 34`. The empty text and `TOTAL`
mean every record. Otherwise `OR` or `|` separates groups, `AND` or `&` separates the pieces of a
group, and each piece is a condition `VARIABLE OPERATOR VALUE`.

* `Condition.read` : one condition, or the reason why there is none;
* `Equation.groups` : the pieces of a text, group by group;
* `Equation.parse`, `Equation.warnings` : the expression and what is reported about the pieces that
  could not be read. Reading an equation never fails as a whole.
-/

namespace SurveyTables

open Text

/-- Why a text is no condition. -/
inductive ConditionError where
  | empty
  | malformed (text : String)
  | unsupportedList (op : Operator)
  deriving DecidableEq, Repr

/-- The wording of the reason. -/
def ConditionError.message : ConditionError → String
  | .empty => "Empty condition"
  | .malformed text =>
    "Syntax error: '" ++ text ++ "' is not of the form VARIABLE OPERATOR VALUE"
  | .unsupportedList op => "Operator '" ++ op.symbol ++ "' is not supported for a list value"

/-- Both sides of the first dash, if there is a dash but not in front, and both are numbers. -/
def Operand.readRange? (raw : List Char) : Option Operand :=
  if raw.head? = some '-' then none
  else (splitOnce? '-' raw).bind fun sides =>
    (numberOfText? (String.ofList sides.1)).bind fun min =>
      (numberOfText? (String.ofList sides.2)).map fun max => .range min max

/-- The value of a condition: a range if it reads as one, else a list if it has a comma, else a
single value. A list can only be equal or not equal. -/
def Operand.read (op : Operator) (raw : List Char) : Except ConditionError Operand :=
  match readRange? raw with
  | some interval => .ok interval
  | none =>
    if raw.contains ',' then
      if op.isEquality then
        .ok (.list ((splitOn ',' raw).map fun item => String.ofList (trim item)))
      else .error (.unsupportedList op)
    else .ok (.scalar (String.ofList raw))

namespace Condition

/-- The characters of a variable code in an equation: ASCII letters, digits and the underscore. -/
def isCodeChar (c : Char) : Bool := c.isAlphanum || c == '_'

/-- What follows the operator, without blanks in front: something, on one line. -/
def valueText? (s : List Char) : Option (List Char) :=
  if (trimStart s).isEmpty || (trimStart s).contains '\n' then none else some (trimStart s)

/-- The operator at the start of a text and the value after it. A symbol of two characters is
preferred, its first character alone is tried when nothing would be left for the value. -/
def splitOperator? (s : List Char) : Option (Operator × List Char) :=
  Operator.all.findSome? fun op =>
    (op.symbol.toList.isPrefixOf? s).bind fun rest => (valueText? rest).map fun v => (op, v)

/-- The three parts of a condition: code, operator and the text of the value. -/
def splitParts? (s : List Char) : Option (List Char × Operator × List Char) :=
  if (s.takeWhile isCodeChar).isEmpty then none
  else (splitOperator? (trimStart (s.dropWhile isCodeChar))).map fun p =>
    (s.takeWhile isCodeChar, p.1, trim p.2)

def read (s : List Char) : Except ConditionError Condition :=
  if (trim s).isEmpty then .error .empty
  else
    match splitParts? (trim s) with
    | none => .error (.malformed (String.ofList (trim s)))
    | some (code, op, raw) => (Operand.read op raw).map fun v => ⟨String.ofList code, op, v⟩

end Condition

namespace Equation

/-- The separator of groups. -/
def disjunction : Connective := ⟨"OR".toList, '|'⟩

/-- The separator of the pieces of a group. -/
def conjunction : Connective := ⟨"AND".toList, '&'⟩

/-- The equation means every record: it is empty or `TOTAL`. -/
def isMatchAll (s : List Char) : Bool := (trim s).isEmpty || trim s == "TOTAL".toList

def groups (s : List Char) : List (List (List Char)) :=
  (disjunction.split (expandBetween false (trim s))).map conjunction.split

/-- The expression of a piece; a text that is no condition is kept as it is. -/
def ofPiece (piece : List Char) : Expression :=
  match Condition.read piece with
  | .ok c => .condition c
  | .error _ => .unparsed (String.ofList (trim piece))

/-- One expression stands for itself, any other number of them for their conjunction. -/
def conjoin : List Expression → Expression
  | [e] => e
  | es => .and es

/-- One expression stands for itself, any other number of them for their disjunction. -/
def disjoin : List Expression → Expression
  | [e] => e
  | es => .or es

/-- The expression of groups of pieces. -/
def ofGroups (gs : List (List (List Char))) : Expression :=
  disjoin (gs.map fun g => conjoin (g.map ofPiece))

def parse (s : String) : Expression :=
  if isMatchAll s.toList then .all else ofGroups (groups s.toList)

/-- What is reported about a piece that is no condition. -/
def warning? (piece : List Char) : Option String :=
  match Condition.read piece with
  | .ok _ => none
  | .error e => some ("Could not parse equation condition '" ++ String.ofList (trim piece) ++
      "': " ++ e.message)

def warnings (s : String) : List String :=
  if isMatchAll s.toList then [] else (groups s.toList).flatten.filterMap warning?

/-- The record satisfies the equation. -/
def holds (s : String) (r : Record) : Bool := (parse s).holds r

end Equation

end SurveyTables
