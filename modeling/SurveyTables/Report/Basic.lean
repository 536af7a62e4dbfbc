import SurveyTables.Table.Basic
import SurveyTables.Timestamp.Basic

/-!
# Reports

A `Report` is a list of tables under a heading: the names of the project and the banner, the number
of respondents and the time of the run.
-/

namespace SurveyTables

/-- The heading of a report. -/
structure ReportHeading where
  projectName : String
  bannerName : String
  totalBase : Nat
  generatedAt : Timestamp
  deriving DecidableEq, Repr

/-- The tables of one run. -/
structure Report where
  heading : ReportHeading
  tables : List Table
  deriving DecidableEq

/-- The first table of the question with this id. -/
def Report.table? (r : Report) (questionId : String) : Option Table :=
  r.tables.find? fun t => decide (t.questionId = questionId)

end SurveyTables
