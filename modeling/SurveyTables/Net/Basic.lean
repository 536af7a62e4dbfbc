import SurveyTables.Value
import SurveyTables.Text.Blank

/-!
# Nets

A net groups answers that are reported together: a list of codes, or a range of numbers.

* `CodesNet`, `RangeNet`, `Net` : the two kinds; `CodesNet.make` and `RangeNet.make` build them in
  tidy form;
* `RangeOperator` : how a range is bounded;
* `Net.matchesValue` : the answer belongs to the net. A missing answer belongs to none.
-/

namespace SurveyTables

/-- How a range net is bounded. -/
inductive RangeOperator where
  | between
  | atLeast
  | less
  | greater
  | lessEqual
  | greaterEqual
  | exact
  deriving DecidableEq, Repr

namespace RangeOperator

/-- All kinds of bounds. -/
def all : List RangeOperator :=
  [.between, .atLeast, .less, .greater, .lessEqual, .greaterEqual, .exact]

/-- How the bound is written. -/
def symbol : RangeOperator → String
  | .between => "-"
  | .atLeast => "+"
  | .less => "<"
  | .greater => ">"
  | .lessEqual => "<="
  | .greaterEqual => ">="
  | .exact => "exact"

/-- The bound with exactly this symbol. -/
def ofExactSymbol? (s : String) : Option RangeOperator := all.find? fun op => decide (op.symbol = s)

/-- The bound with this symbol, blanks around it aside. -/
def ofSymbol? (s : String) : Option RangeOperator := ofExactSymbol? (Text.trimmed s)

/-- There has to be a second value. -/
def needsUpper : RangeOperator → Bool
  | .between => true
  | _ => false

theorem ofExactSymbol?_symbol (op : RangeOperator) : ofExactSymbol? op.symbol = some op := by
  cases op <;> decide

end RangeOperator

/-- Answers with one of these codes. -/
structure CodesNet where
  label : Option String
  codes : List String
  deriving DecidableEq

/-- Answers that are numbers in a range. -/
structure RangeNet where
  label : Option String
  operator : RangeOperator
  value1 : Float
  value2 : Option Float
  deriving DecidableEq

/-- A label that is not empty. -/
def labelGiven (label : Option String) : Option String := label.filter fun l => l != ""

def CodesNet.make (label : Option String) (codes : List String) : CodesNet :=
  ⟨labelGiven label, codes.eraseDups⟩

/-- The net of the given range; a second value is kept only where one is needed, and an empty label
is none. -/
def RangeNet.make (label : Option String) (op : RangeOperator) (value1 : Float)
    (value2 : Option Float) : RangeNet :=
  ⟨labelGiven label, op, value1, if op.needsUpper then value2 else none⟩

namespace RangeNet

/-- The number is in the range. Without its second value, a range between two values is empty. -/
def contains (n : RangeNet) (x : Float) : Bool :=
  match n.operator with
  | .between => n.value2.any fun upper => decide (n.value1 ≤ x) && decide (x ≤ upper)
  | .atLeast | .greaterEqual => decide (x ≥ n.value1)
  | .less => decide (x < n.value1)
  | .greater => decide (x > n.value1)
  | .lessEqual => decide (x ≤ n.value1)
  | .exact => x == n.value1

/-- The values are finite, and a range between two values has both, in order. -/
def wellFormed (n : RangeNet) : Bool :=
  n.value1.isFinite &&
    (!n.operator.needsUpper ||
      n.value2.any fun upper => upper.isFinite && decide (n.value1 ≤ upper))

end RangeNet

/-- A group of answers that are reported together. -/
inductive Net where
  | codes (n : CodesNet)
  | range (n : RangeNet)
  deriving DecidableEq

namespace Net

/-- The name of the net. -/
def label? : Net → Option String
  | .codes n => n.label
  | .range n => n.label

/-- The answer belongs to the net: it is not missing, and it is shown as one of the codes or is a
number in the range. -/
def matchesValue (n : Net) (v : Value) : Bool :=
  !v.isMissing &&
    match n with
    | .codes c => c.codes.contains v.display
    | .range r => v.number?.any r.contains

theorem matchesValue_of_isMissing {n : Net} {v : Value} (h : v.isMissing) :
    n.matchesValue v = false := by
  simp [matchesValue, h]

end Net

end SurveyTables
