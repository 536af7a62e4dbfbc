import SurveyTables.Equation.Checkbox
import SurveyTables.Report.Basic
import SurveyTables.Table.Tabulation

/-!
# Assembling a report

A run tabulates every question of a tab plan under every column of a banner.

* `ReportOptions` : the settings of a run;
* `resolvedColumns` : the columns of the banner with their expressions;
* `cachedEntries`, `directEntries` : the cells of a question, from rows selected once for all
  questions or found again for each;
* `Report.generate` : the report;
* `Report.generateUntil` : the same, but a run can be told to stop before each question.
-/

namespace SurveyTables

/-- The settings of a run. -/
structure ReportOptions where
  projectName : Option String
  topBox : List Float
  bottomBox : List Float
  cacheSelections : Bool
  translateCheckboxes : Bool
  generatedAt : Timestamp
  deriving DecidableEq

/-- The customary settings, for a run at the given time. -/
def ReportOptions.standard (generatedAt : Timestamp) : ReportOptions :=
  ⟨none, defaultTopBox, defaultBottomBox, true, true, generatedAt⟩

/-- Why a run has no report. -/
inductive ReportError where
  | cancelled (completed : Nat)
  deriving DecidableEq, Repr

/-- The wording of the reason. -/
def ReportError.message : ReportError → String
  | .cancelled completed => s!"Report generation cancelled after {completed} tables"

/-- The expression of a column, on checkbox columns if that is asked for. -/
def ReportOptions.expression (o : ReportOptions) (d : Dataset) (c : BannerColumn) : Expression :=
  if o.translateCheckboxes then (Equation.parse c.equation).toCheckbox d
  else Equation.parse c.equation

def resolvedColumns (o : ReportOptions) (b : BannerPlan) (d : Dataset) :
    List (BannerColumn × Expression) :=
  b.columnList.map fun c => (c, o.expression d c)

/-- The columns with the rows of their respondents. -/
def selectedColumns (d : Dataset) (columns : List (BannerColumn × Expression)) :
    List (BannerColumn × RowSelection) :=
  columns.map fun c => (c.1, RowSelection.select d c.2)

/-- How a question is tabulated: with its own boxes, or else those of the run. -/
def ReportOptions.spec (o : ReportOptions) (q : TabQuestion) : QuestionSpec :=
  ⟨q.id, q.kind, q.topBox.getD o.topBox, q.bottomBox.getD o.bottomBox, q.nets⟩

def cachedEntries (o : ReportOptions) (d : Dataset) (columns : List (BannerColumn × RowSelection))
    (q : TabQuestion) : List ColumnEntry :=
  tabulateSelections (o.spec q) d columns

def directEntries (o : ReportOptions) (d : Dataset) (columns : List (BannerColumn × Expression))
    (q : TabQuestion) : List ColumnEntry :=
  columns.map fun c =>
    let records := d.records.filter c.2.holds
    ⟨c.1, columnStats (o.spec q) records.length records⟩

/-- The table of a question with the given cells. -/
def TabQuestion.table (q : TabQuestion) (entries : List ColumnEntry) : Table :=
  ⟨q.id, q.title, q.kind, entries⟩

/-- How a run fills the cells of a question. -/
def entriesOf (o : ReportOptions) (b : BannerPlan) (d : Dataset) :
    TabQuestion → List ColumnEntry :=
  let columns := resolvedColumns o b d
  if o.cacheSelections then cachedEntries o d (selectedColumns d columns)
  else directEntries o d columns

/-- The text, if it is not empty, or else another. -/
def textOr (fallback text : String) : String := if text = "" then fallback else text

/-- The heading of a report. A project name in the settings takes precedence over that of the plan,
even if it is empty. -/
def reportHeading (o : ReportOptions) (p : TabPlan) (b : BannerPlan) (d : Dataset) :
    ReportHeading :=
  ⟨textOr "Unnamed Project" ((o.projectName.or p.projectName).getD ""),
    textOr "Unnamed Banner" b.name, d.size, o.generatedAt⟩

namespace Report

def generate (o : ReportOptions) (p : TabPlan) (b : BannerPlan) (d : Dataset) : Report :=
  let entries := entriesOf o b d
  ⟨reportHeading o p b d, p.questions.map fun q => q.table (entries q)⟩

/-- The number of tables finished when a run is stopped. `stop` says whether it is, given the number
of tables finished; it is asked before each question. -/
def stoppedAt? (stop : Nat → Bool) : Nat → List TabQuestion → Option Nat
  | _, [] => none
  | done, _ :: qs => if stop done then some done else stoppedAt? stop (done + 1) qs

def generateUntil (stop : Nat → Bool) (o : ReportOptions) (p : TabPlan) (b : BannerPlan)
    (d : Dataset) : Except ReportError Report :=
  match stoppedAt? stop 0 p.questions with
  | some done => .error (.cancelled done)
  | none => .ok (generate o p b d)

end Report

end SurveyTables
