import SurveyTables.Net.Problems

/-!
# Drafts of nets

A `NetDraft` is a net as someone is still typing it: every part may be missing or ill-formed.

* `NetDraft.problems` : what keeps it from being a net;
* `NetDraft.toNet` : the net, if nothing does. The codes that the question offers are not looked
  at.
-/

namespace SurveyTables

/-- Why a net or an edit of nets is refused. -/
inductive NetError where
  | indexOutOfBounds (index size : Nat)
  | invalidDraft (problems : List NetProblem)
  deriving DecidableEq, Repr

/-- The wording of a refusal. -/
def NetError.message : NetError → String
  | .indexOutOfBounds index size =>
    s!"Net index {index} out of bounds (question has {size} nets)"
  | .invalidDraft problems =>
    "Invalid net: " ++ "; ".intercalate (problems.map NetProblem.message)

/-- A net being written. -/
structure NetDraft where
  kind : Option String
  label : Option String
  codes : Option (List Value)
  operator : Option String
  value1 : Option Value
  value2 : Option Value
  deriving DecidableEq

/-- The two kinds of nets. -/
inductive NetKind where
  | codes
  | range
  deriving DecidableEq, Repr

namespace NetDraft

/-- The kind that is named, blanks around it aside. -/
def kind? (d : NetDraft) : Option NetKind :=
  match d.kind.map Text.trimmed with
  | some "codes" => some .codes
  | some "range" => some .range
  | _ => none

/-- The codes that are not missing, as texts. -/
def codeTexts (d : NetDraft) : List String :=
  ((d.codes.getD []).filter fun v => !v.isMissing).map Value.display

/-- The bound that is named; a range between two values if none is. -/
def rangeOperator (d : NetDraft) : Except NetProblem RangeOperator :=
  match d.operator.getD "" with
  | "" => .ok .between
  | text =>
    match RangeOperator.ofSymbol? text with
    | some op => .ok op
    | none => .error (.unknownOperator text)

/-- The faults of the draft; the codes that the question offers may be unknown. -/
def problemsFor (valid : Option (List String)) (d : NetDraft) : List NetProblem :=
  match d.kind? with
  | none => [.missingKind]
  | some .codes => codesProblems valid d.codeTexts
  | some .range =>
    match d.rangeOperator with
    | .ok op => rangeProblems (d.value1.bind Value.number?) op (d.value2.bind Value.number?)
    | .error p => [p]

def problems (valid : List String) (d : NetDraft) : List NetProblem := d.problemsFor (some valid)

/-- The range net of a draft whose kind is that of a range. -/
def toRange (d : NetDraft) : Except NetError Net :=
  match d.rangeOperator, d.value1.bind Value.number? with
  | .error p, _ => .error (.invalidDraft [p])
  | .ok _, none => .error (.invalidDraft [.badFirstValue])
  | .ok op, some x => .ok (.range (RangeNet.make d.label op x (d.value2.bind Value.number?)))

def toNet (d : NetDraft) : Except NetError Net :=
  if (d.problemsFor none).isEmpty then
    match d.kind? with
    | some .codes => .ok (.codes (CodesNet.make d.label d.codeTexts))
    | _ => d.toRange
  else .error (.invalidDraft (d.problemsFor none))

end NetDraft

end SurveyTables
