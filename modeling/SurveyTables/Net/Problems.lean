import SurveyTables.Net.Basic

/-!
# What is wrong with a net

* `NetProblem` : one fault, `NetProblem.message` its wording;
* `codesProblems`, `rangeProblems` : the faults of a list of codes and of a range whose values may
  be missing;
* `Net.problems` : the faults of a net, given the codes that its question offers.
-/

namespace SurveyTables

/-- A fault of a net, or of a draft of one. -/
inductive NetProblem where
  | missingKind
  | unknownOperator (text : String)
  | noCodes
  | invalidCodes (codes : List String)
  | badFirstValue
  | badSecondValue
  | invertedRange
  deriving DecidableEq, Repr

def NetProblem.message : NetProblem → String
  | .missingKind => "Net must have a kind (codes or range)"
  | .unknownOperator text => "Unknown range operator '" ++ text ++ "'"
  | .noCodes => "Codes net must have at least one code selected"
  | .invalidCodes codes => "Invalid codes: " ++ ", ".intercalate codes
  | .badFirstValue => "First value must be a valid number"
  | .badSecondValue => "Second value must be a valid number for range"
  | .invertedRange => "First value must be less than or equal to second value"

/-- The fault of having no codes. -/
def emptyProblems (codes : List String) : List NetProblem :=
  if codes.isEmpty then [.noCodes] else []

/-- The fault of having codes that the question does not offer. -/
def invalidProblems (valid codes : List String) : List NetProblem :=
  let invalid := codes.filter fun c => !valid.contains c
  if invalid.isEmpty then [] else [.invalidCodes invalid]

def codesProblems (valid : Option (List String)) (codes : List String) : List NetProblem :=
  emptyProblems codes ++ (valid.map fun v => invalidProblems v codes).getD []

/-- The faults of the second value of a range, given a first value that is a finite number. -/
def upperProblems (value1 value2 : Option Float) : List NetProblem :=
  match value2.filter Float.isFinite with
  | none => [.badSecondValue]
  | some upper => if value1.any fun lower => decide (lower > upper) then [.invertedRange] else []

def rangeProblems (value1 : Option Float) (op : RangeOperator) (value2 : Option Float) :
    List NetProblem :=
  let first := value1.filter Float.isFinite
  (if first.isNone then [.badFirstValue] else []) ++
    (if op.needsUpper then upperProblems first value2 else [])

def Net.problems (valid : List String) : Net → List NetProblem
  | .codes n => codesProblems (some valid) n.codes
  | .range n => rangeProblems (some n.value1) n.operator n.value2

end SurveyTables
