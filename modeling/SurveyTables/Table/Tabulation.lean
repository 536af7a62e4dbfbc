import SurveyTables.Equation.Selection
import SurveyTables.Net.Summary
import SurveyTables.Statistics
import SurveyTables.Table.Basic

/-!
# Tabulation

The statistics of one question over the respondents of one column.

* `QuestionSpec` : the question, the kind of its table, its boxes and nets;
* `tally` : how often each code occurs, in the order of first occurrence;
* `columnStats` : the cell of a question for a base and a list of records; an empty base gives an
  empty cell;
* `tabulate`, `tabulateSelections` : the cells of a row of columns, from their equations or from
  rows selected before.
-/

namespace SurveyTables

/-- What is tabulated, and how. -/
structure QuestionSpec where
  questionId : String
  kind : TableKind
  topBox : List Float
  bottomBox : List Float
  nets : List Net
  deriving DecidableEq

/-- The codes of the top box where none are given. -/
def defaultTopBox : List Float := [1, 2]

/-- The codes of the bottom box where none are given. -/
def defaultBottomBox : List Float := [4, 5]

/-- The answers to a question among the records, without the missing ones. -/
def responses (questionId : String) (records : List Record) : List Value :=
  records.filterMap fun r => r.response? questionId

/-- The tally with one more occurrence of a code. -/
def countCode (code : String) : List (String × Nat) → List (String × Nat)
  | [] => [(code, 1)]
  | (c, n) :: rest => if c = code then (c, n + 1) :: rest else (c, n) :: countCode code rest

def tally (codes : List String) : List (String × Nat) :=
  codes.foldl (fun counts code => countCode code counts) []

/-- A count in percent of the base; zero of an empty base. -/
def percentOf (base count : Nat) : Float := (percent? count base).getD 0

/-- The shares of the codes and nets of a question. -/
def categoricalStats (questionId : String) (nets : List Net) (base : Nat)
    (records : List Record) : CategoricalStats :=
  if base = 0 then ⟨0, [], []⟩
  else
    let values := responses questionId records
    ⟨base,
      (tally (values.map Value.display)).map fun c => ⟨c.1, c.2, percentOf base c.2⟩,
      nets.map fun n =>
        let count := values.countP n.matchesValue
        ⟨n.reportLabel, count, percentOf base count⟩⟩

/-- The statistics of the numbers among the answers to a question. -/
def numericStats (questionId : String) (base : Nat) (records : List Record) : NumericStats :=
  if base = 0 then ⟨0, 0, none, none, none⟩
  else
    let numbers := (responses questionId records).filterMap Value.number?
    ⟨base, numbers.length, mean? numbers, median? numbers, deviation? numbers⟩

/-- The number is one of the codes of a box. -/
def inBox (box : List Float) (x : Float) : Bool := box.any fun code => code == x

/-- The shares of the boxes of a question. -/
def boxStats (spec : QuestionSpec) (base : Nat) (records : List Record) : BoxStats :=
  if base = 0 then ⟨0, none, none⟩
  else
    let numbers := (responses spec.questionId records).filterMap Value.number?
    ⟨base, percent? (numbers.countP (inBox spec.topBox)) base,
      percent? (numbers.countP (inBox spec.bottomBox)) base⟩

def columnStats (spec : QuestionSpec) (base : Nat) (records : List Record) : ColumnStats :=
  match spec.kind with
  | .numeric => .numeric (numericStats spec.questionId base records)
  | .likert => .likert (boxStats spec base records)
  | .categorical => .categorical (categoricalStats spec.questionId spec.nets base records)

def tabulate (questionId : String) (kind : TableKind) (d : Dataset) (columns : List BannerColumn)
    (topBox bottomBox : Option (List Float)) : List ColumnEntry :=
  let spec : QuestionSpec :=
    ⟨questionId, kind, topBox.getD defaultTopBox, bottomBox.getD defaultBottomBox, []⟩
  columns.map fun c =>
    let records := d.filter c.equation
    ⟨c, columnStats spec records.length records⟩

def tabulateSelections (spec : QuestionSpec) (d : Dataset)
    (columns : List (BannerColumn × RowSelection)) : List ColumnEntry :=
  columns.map fun c => ⟨c.1, columnStats spec c.2.size (c.2.records d)⟩

/-! ## The base of a cell -/

theorem base_columnStats (spec : QuestionSpec) (base : Nat) (records : List Record) :
    (columnStats spec base records).base = base := by
  unfold columnStats
  split <;>
    simp only [ColumnStats.base, numericStats, boxStats, categoricalStats] <;> split <;> simp_all

end SurveyTables
