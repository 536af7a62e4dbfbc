import SurveyTables.Net.Basic
import SurveyTables.Text.Blank

/-!
# Tab plans

A tab plan lists the questions to tabulate, and how.

* `TableKind` : shares of codes, statistics of numbers, or shares of the boxes of a scale;
* `TabQuestion`, `TabPlan` : one question and all of them.
-/

namespace SurveyTables

/-- What a table shows about its question. -/
inductive TableKind where
  | categorical
  | numeric
  | likert
  deriving DecidableEq, Repr

namespace TableKind

/-- The name of the kind. -/
def name : TableKind → String
  | .categorical => "categorical"
  | .numeric => "numeric"
  | .likert => "likert"

/-- The kind with this name, case and blanks around it aside; any other name means shares of
codes. -/
def ofName (s : String) : TableKind :=
  let word := (Text.trim s.toList).map Char.toLower
  if word = "numeric".toList then .numeric
  else if word = "likert".toList then .likert
  else .categorical

theorem ofName_name (k : TableKind) : ofName k.name = k := by
  cases k <;> decide

end TableKind

/-- A question to tabulate. Boxes that are not given are those of the report. -/
structure TabQuestion where
  id : String
  text : String
  kind : TableKind
  topBox : Option (List Float)
  bottomBox : Option (List Float)
  nets : List Net
  deriving DecidableEq

/-- The questions to tabulate, in order. -/
structure TabPlan where
  projectName : Option String
  questions : List TabQuestion
  deriving DecidableEq

/-- The title of the table: the text of the question, or its id if there is none. -/
def TabQuestion.title (q : TabQuestion) : String := if q.text = "" then q.id else q.text

end SurveyTables
