import SurveyTables.Value

/-!
# Questions

A `Question` as it was written for a questionnaire. Its answers may be authored in several shapes:
plain options, the columns of a grid or of a table, or the labels of a scale.

* `Question.likertMode?`, `Question.isTable`, `Question.scalePoints?` : how it was authored.
-/

namespace SurveyTables

/-- A plain option; either part may be left out. -/
structure QuestionOption where
  code : Option Value
  label : Option String
  deriving DecidableEq

/-- The rows and columns of a grid or table. -/
structure Grid where
  rows : List String
  cols : List String
  deriving DecidableEq, Repr

/-- A scale: the number of its points, below `2 ^ 32`, and their labels. -/
structure Scale where
  points : Option UInt32
  labels : List String
  deriving DecidableEq, Repr

/-- A question of a questionnaire. -/
structure Question where
  id : String
  kind : String
  mode : Option String
  options : List QuestionOption
  grid : Option Grid
  advancedTable : Option Grid
  scale : Option Scale
  deriving DecidableEq

namespace Question

/-- The modes of authoring that make a question a Likert scale. -/
def likertModes : List String := ["likert_agreement", "likert_sentiment", "likert_custom"]

def likertMode? (q : Question) : Option String := q.mode.filter likertModes.contains

def isTable (q : Question) : Bool := q.mode == some "table" || q.mode == some "advanced_table"

def scalePoints? (q : Question) : Option UInt32 := q.scale.bind Scale.points

end Question

end SurveyTables
