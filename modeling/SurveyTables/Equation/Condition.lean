import SurveyTables.Record

/-!
# Conditions

A condition compares one variable with a value: `Q1>=5`, `S1=1,2`, `AGE=18-34`.

* `Operator` : the six comparisons, `Operator.compare` on numbers;
* `Operand` : a single value, a list of values or an inclusive range of numbers;
* `Condition.holds` : the verdict on a record. A variable without a response satisfies nothing.
-/

namespace SurveyTables

/-- A comparison. -/
inductive Operator where
  | equal
  | notEqual
  | greater
  | less
  | greaterEqual
  | lessEqual
  deriving DecidableEq, Repr

namespace Operator

/-- All comparisons, those with longer symbols first. -/
def all : List Operator := [.greaterEqual, .lessEqual, .notEqual, .greater, .less, .equal]

/-- How the comparison is written. -/
def symbol : Operator → String
  | .equal => "="
  | .notEqual => "!="
  | .greater => ">"
  | .less => "<"
  | .greaterEqual => ">="
  | .lessEqual => "<="

/-- The comparison with exactly this symbol. -/
def ofSymbol? (s : String) : Option Operator := all.find? fun op => decide (op.symbol = s)

/-- Equal or not equal: the comparisons that make sense for texts and lists. -/
def isEquality : Operator → Bool
  | .equal | .notEqual => true
  | _ => false

theorem isEquality_iff {op : Operator} : op.isEquality ↔ op = .equal ∨ op = .notEqual := by
  cases op <;> simp [isEquality]

def compare : Operator → Float → Float → Bool
  | .equal, a, b => a == b
  | .notEqual, a, b => a != b
  | .greater, a, b => decide (a > b)
  | .less, a, b => decide (a < b)
  | .greaterEqual, a, b => decide (a ≥ b)
  | .lessEqual, a, b => decide (a ≤ b)

/-- The verdict of a comparison that can only tell equal from not equal. -/
def ofEquality : Operator → Bool → Bool
  | .equal, same => same
  | .notEqual, same => !same
  | _, _ => false

theorem ofSymbol?_symbol (op : Operator) : ofSymbol? op.symbol = some op := by
  cases op <;> decide

end Operator

/-- What a variable is compared with. -/
inductive Operand where
  | scalar (text : String)
  | range (min max : Float)
  | list (items : List String)
  deriving DecidableEq

/-- The written form of a value: a range with a dash, a list with commas. -/
def Operand.text : Operand → String
  | .scalar s => s
  | .range min max => numberText min ++ "-" ++ numberText max
  | .list items => ",".intercalate items

/-- A comparison of the variable with this code with a value. -/
structure Condition where
  code : String
  operator : Operator
  operand : Operand
  deriving DecidableEq

namespace Condition

/-- The written form of a condition. -/
def text (c : Condition) : String := c.code ++ c.operator.symbol ++ c.operand.text

/-- Two numbers are compared as numbers, anything else as texts, which are only equal or not. -/
def scalarHolds (op : Operator) (raw : String) (cell : Value) : Bool :=
  match cell.number?, numberOfText? raw with
  | some a, some b => op.compare a b
  | _, _ => op.ofEquality (decide (cell.display = raw))

/-- The verdict on a response. Membership in a range is inclusive and the same under every
comparison; membership in a list is by text. -/
def admits (c : Condition) (cell : Value) : Bool :=
  match c.operand with
  | .range min max => cell.number?.any fun x => decide (min ≤ x) && decide (x ≤ max)
  | .list items => c.operator.ofEquality (items.contains cell.display)
  | .scalar raw => scalarHolds c.operator raw cell

def holds (c : Condition) (r : Record) : Bool := (r.response? c.code).any c.admits

end Condition

end SurveyTables
