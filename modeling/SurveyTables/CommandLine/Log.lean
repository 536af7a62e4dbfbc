import SurveyTables.Question.BoxNets
import SurveyTables.Report.Assembly
import SurveyTables.Text.ControlSequence

/-!
# The log

What is done is logged on the way, apart from what is printed and reported.

* `LogLevel`, `LogEntry` : an entry and how much it matters;
* `Log.report` : the log as it is written; only doubts are, unless more is asked for;
* `Dataset.loadLog`, `Equation.parseLog`, `Condition.checkboxLog`, `ReportOptions.log`,
  `Question.choicesLog`, `Question.boxNetsLog` : what is logged of each kind of work.
-/

namespace SurveyTables

/-- How much an entry matters: it tells of a detail, of a step of the work, or of a doubt about what
was given. -/
inductive LogLevel where
  | detail
  | step
  | doubt
  deriving DecidableEq, Repr

/-- The mark of the level. -/
def LogLevel.mark : LogLevel → String
  | .detail => "[DEBUG] "
  | .step => "[INFO] "
  | .doubt => "[WARN] "

/-- An entry of the log. -/
structure LogEntry where
  level : LogLevel
  text : String
  deriving DecidableEq, Repr

/-- What was logged, in order. -/
abbrev Log := List LogEntry

/-- The text with its lines after the first set in. -/
def setIn (text : List Char) : List Char :=
  text.flatMap fun c => if c = '\n' then "\n    ".toList else [c]

namespace LogEntry

/-- The entry is written. -/
def isWritten (verbose : Bool) (e : LogEntry) : Bool := verbose || decide (e.level = .doubt)

/-- The entry as it is written: its further lines are set in, and what a terminal would not show is
left out, which can be the end of the line as well. -/
def report (e : LogEntry) : String :=
  String.ofList (Text.visible (e.level.mark.toList ++ setIn e.text.toList ++ ['\n']))

end LogEntry

namespace Log

def report (verbose : Bool) (log : Log) : String :=
  String.join ((log.filter (LogEntry.isWritten verbose)).map LogEntry.report)

end Log

def Dataset.loadLog (d : Dataset) (path : String) : Log :=
  [⟨.detail, s!"Read dataset with {d.size} records and {d.columns.length} variables"⟩,
    ⟨.step, s!"Loaded {d.size} rows x {d.columns.length} columns from " ++ path⟩]

def Equation.parseLog (equation : String) : Log := (warnings equation).map fun w => ⟨.doubt, w⟩

def Condition.checkboxLog (d : Dataset) (c : Condition) : Log :=
  let translated := c.toCheckbox d
  if translated = c then []
  else [⟨.detail, "Translating checkbox condition " ++ c.text ++ " to " ++ translated.text⟩]

namespace ReportOptions

/-- What is logged of the equation of a column. -/
def columnLog (o : ReportOptions) (d : Dataset) (c : BannerColumn) : Log :=
  Equation.parseLog c.equation ++
    if o.translateCheckboxes then
      (Equation.parse c.equation).conditions.flatMap (Condition.checkboxLog d)
    else []

/-- What is logged of the rows of a column. -/
def selectionEntry (c : BannerColumn × RowSelection) : LogEntry :=
  ⟨.detail, "Column " ++ c.1.id ++ s!" base {c.2.size}"⟩

def log (o : ReportOptions) (b : BannerPlan) (d : Dataset) : Log :=
  b.columnList.flatMap (o.columnLog d) ++
    if o.cacheSelections then (selectedColumns d (resolvedColumns o b d)).map selectionEntry
    else []

end ReportOptions

namespace Question

def choicesLog (q : Question) : Log :=
  if q.authoredChoices.isEmpty then
    match q.likertMode? with
    | some mode =>
      [⟨.detail, "Question " ++ q.id ++ " has no options; using default " ++ mode ++ " labels"⟩]
    | none => []
  else []

def boxNetsLog (q : Question) (points : UInt32) : Log :=
  let looked := if [5, 7, 10].contains points && q.isLikert then q.choicesLog else []
  looked ++
    if (q.boxNets points).isEmpty then
      [⟨.detail, "No automatic nets for question " ++ q.id ++ s!" ({points} points)"⟩]
    else q.choicesLog

end Question

end SurveyTables
