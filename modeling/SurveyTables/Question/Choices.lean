import SurveyTables.Choice
import SurveyTables.Question.Basic
import SurveyTables.Text.Search

/-!
# The answers a question offers

* `Question.authoredChoices` : the choices of the first shape that has any, in the order plain
  options, grid columns of a table, columns of an advanced table, grid columns of a grid, scale
  labels;
* `Question.choices` : these, or the customary labels of a Likert scale without any;
* `Question.validCodes` : their codes.
-/

namespace SurveyTables

/-- The choice that a plain option at a position stands for. Its code is the position, from one on,
if none was given. -/
def QuestionOption.choice (i : Nat) (o : QuestionOption) : Choice :=
  ⟨match o.code.filter fun v => !v.isMissing with
    | some v => v.display
    | none => toString (i + 1), o.label.getD ""⟩

namespace Question

/-- The columns of a grid, if there are any. -/
def columns? (g : Option Grid) : Option (List String) :=
  (g.map Grid.cols).filter fun cols => !cols.isEmpty

/-- The labels that are numbered for want of plain options: those of the first shape that applies
and has any. -/
def labels (q : Question) : List String :=
  let shapes : List (Bool × Option (List String)) :=
    [(q.isTable, columns? q.grid),
      (q.mode == some "advanced_table", columns? q.advancedTable),
      (Text.occursIn "grid".toList q.kind.toList, columns? q.grid),
      (true, q.scale.map Scale.labels)]
  (shapes.findSome? fun shape => if shape.1 then shape.2 else none).getD []

def authoredChoices (q : Question) : List Choice :=
  if q.options.isEmpty then Choice.numbered q.labels
  else q.options.mapIdx QuestionOption.choice

/-- The three, five and seven labels of a scale of agreement. -/
def agreementLabels : List String × List String × List String :=
  (["Disagree", "Neither Agree nor Disagree", "Agree"],
    ["Strongly Disagree", "Disagree", "Neither Agree nor Disagree", "Agree", "Strongly Agree"],
    ["Strongly Disagree", "Disagree", "Somewhat Disagree", "Neither Agree nor Disagree",
      "Somewhat Agree", "Agree", "Strongly Agree"])

/-- The three, five and seven labels of a scale of satisfaction. -/
def sentimentLabels : List String × List String × List String :=
  (["Dissatisfied", "Neither", "Satisfied"],
    ["Very Dissatisfied", "Dissatisfied", "Neither", "Satisfied", "Very Satisfied"],
    ["Very Dissatisfied", "Dissatisfied", "Somewhat Dissatisfied", "Neither",
      "Somewhat Satisfied", "Satisfied", "Very Satisfied"])

/-- The three, five and seven labels of any other scale. -/
def customLabels : List String × List String × List String :=
  (["Low", "Medium", "High"],
    ["Very Low", "Low", "Medium", "High", "Very High"],
    ["Very Low", "Low", "Somewhat Low", "Medium", "Somewhat High", "High", "Very High"])

/-- The customary labels of a Likert scale; five unless three or seven points are asked for. -/
def customaryLabels (mode : String) (points : UInt32) : List String :=
  let sets :=
    if mode = "likert_agreement" then agreementLabels
    else if mode = "likert_sentiment" then sentimentLabels
    else customLabels
  if points = 3 then sets.1 else if points = 7 then sets.2.2 else sets.2.1

def choices (q : Question) : List Choice :=
  if q.authoredChoices.isEmpty then
    match q.likertMode? with
    | some mode => Choice.numbered (customaryLabels mode (q.scalePoints?.getD 5))
    | none => []
  else q.authoredChoices

def validCodes (q : Question) : List String := q.choices.map Choice.code

end Question

end SurveyTables
