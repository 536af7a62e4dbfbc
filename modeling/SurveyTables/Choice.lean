/-!
# Answer choices

A `Choice` is one of the answers that a question offers: the code under which it is stored and the
label that respondents saw. `Choice.labelOf` finds the words for a code.
-/

namespace SurveyTables

/-- An answer that a question offers. -/
structure Choice where
  code : String
  label : String
  deriving DecidableEq, Repr

namespace Choice

/-- The label of the first choice with this code, or the code itself if there is none or its label
is empty. -/
def labelOf (choices : List Choice) (code : String) : String :=
  match choices.find? fun c => decide (c.code = code) with
  | some c => if c.label = "" then code else c.label
  | none => code

/-- Choices with the given labels, coded by their positions from one on. -/
def numbered (labels : List String) : List Choice :=
  labels.mapIdx fun i label => ⟨toString (i + 1), label⟩

theorem codes_numbered (labels : List String) :
    (numbered labels).map code = (List.range labels.length).map fun i => toString (i + 1) := by
  apply List.ext_getElem <;> simp [numbered]

end Choice

end SurveyTables
