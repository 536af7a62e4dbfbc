import SurveyTables.Question.Likert
import SurveyTables.Wire.Data

/-!
# Questions in JSON

A question is an object of which only the `id` has to be there. The verdict on a Likert scale is an
object with a `rule`, which names itself and, if it recognised one, its vocabulary. A vocabulary that
stands before the rule is kept until the rule is known.
-/

namespace SurveyTables

/-- A plain option as JSON. -/
def QuestionOption.toJson (o : QuestionOption) : Json :=
  .object [("code", .ofOption Value.toJson o.code), ("label", .ofOption .string o.label)]

/-- The plain option that JSON denotes. -/
def QuestionOption.ofJson? (v : Json) : Option QuestionOption := do
  let fields ← v.object?
  let code ← Json.optional? Value.ofJson? ["code"] fields
  let label ← Json.optional? Json.string? ["label"] fields
  return ⟨code, label⟩

/-- A grid as JSON. -/
def Grid.toJson (g : Grid) : Json :=
  .object [("rows", .ofList .string g.rows), ("cols", .ofList .string g.cols)]

/-- The grid that JSON denotes. -/
def Grid.ofJson? (v : Json) : Option Grid := do
  let fields ← v.object?
  let rows ← Json.withDefault? (Json.listOf? Json.string?) [] ["rows"] fields
  let cols ← Json.withDefault? (Json.listOf? Json.string?) [] ["cols"] fields
  return ⟨rows, cols⟩

/-- A scale as JSON. -/
def Scale.toJson (s : Scale) : Json :=
  .object [("points", .ofOption (fun p => .nat p.toNat) s.points),
    ("labels", .ofList .string s.labels)]

/-- The number of points that JSON denotes. -/
def pointsOfJson? (v : Json) : Option UInt32 := (v.natBelow? UInt32.size).map UInt32.ofNat

/-- The scale that JSON denotes. -/
def Scale.ofJson? (v : Json) : Option Scale := do
  let fields ← v.object?
  let points ← Json.optional? pointsOfJson? ["points"] fields
  let labels ← Json.withDefault? (Json.listOf? Json.string?) [] ["labels"] fields
  return ⟨points, labels⟩

/-- A question as JSON. -/
def Question.toJson (q : Question) : Json :=
  .object [("id", .string q.id), ("type", .string q.kind), ("mode", .ofOption .string q.mode),
    ("options", .ofList QuestionOption.toJson q.options), ("grid", .ofOption Grid.toJson q.grid),
    ("advancedTable", .ofOption Grid.toJson q.advancedTable),
    ("scale", .ofOption Scale.toJson q.scale)]

/-- The question that JSON denotes. -/
def Question.ofJson? (v : Json) : Option Question := do
  let fields ← v.object?
  let id ← Json.required? Json.string? ["id"] fields
  let kind ← Json.withDefault? Json.string? "" ["type"] fields
  let mode ← Json.optional? Json.string? ["mode"] fields
  let options ← Json.withDefault? (Json.listOf? QuestionOption.ofJson?) [] ["options"] fields
  let grid ← Json.optional? Grid.ofJson? ["grid"] fields
  let advancedTable ← Json.optional? Grid.ofJson? ["advancedTable"] fields
  let scale ← Json.optional? Scale.ofJson? ["scale"] fields
  return ⟨id, kind, mode, options, grid, advancedTable, scale⟩

/-- The rule of a verdict as JSON. -/
def LikertRule.toJson : LikertRule → Json
  | .explicitMode => .object [("rule", .string "explicit_mode")]
  | .scalePoints => .object [("rule", .string "scale_points")]
  | .vocabulary v => .object [("rule", .string "vocabulary"), ("vocabulary", .string v.name)]
  | .symmetricKeywords => .object [("rule", .string "symmetric_keywords")]

/-- The rule with this name, given what is said about a vocabulary and how its name is read. -/
def LikertRule.ofName? (read : Json → Option String) (vocabulary : Option Json) :
    String → Option LikertRule
  | "explicit_mode" => plain .explicitMode
  | "scale_points" => plain .scalePoints
  | "symmetric_keywords" => plain .symmetricKeywords
  | "vocabulary" =>
    ((vocabulary.bind read).bind ScaleVocabulary.ofName?).map LikertRule.vocabulary
  | _ => none
where
  /-- A rule without a vocabulary, about which nothing may be said but null. -/
  plain (r : LikertRule) : Option LikertRule :=
    match vocabulary with
    | none | some .null => some r
    | _ => none

/-- A vocabulary stands before the rule. -/
def LikertRule.isVocabularyFirst (fields : Json.Fields) : Bool :=
  (fields.find? fun f => f.1 == "rule" || f.1 == "vocabulary").any fun f => f.1 == "vocabulary"

/-- The rule that JSON denotes. -/
def LikertRule.ofJson? (v : Json) : Option LikertRule := do
  let fields ← v.object?
  let name ← Json.required? Json.unitName? ["rule"] fields
  let vocabulary ← Json.fieldOf? ["vocabulary"] fields
  ofName? (if isVocabularyFirst fields then Json.keptName? else Json.unitName?) vocabulary name

/-- The verdict on a Likert scale. -/
structure LikertDetection where
  rule : Option LikertRule
  deriving DecidableEq, Repr

/-- A verdict as JSON. -/
def LikertDetection.toJson (d : LikertDetection) : Json :=
  .object [("rule", .ofOption LikertRule.toJson d.rule)]

/-- The verdict that JSON denotes. -/
def LikertDetection.ofJson? (v : Json) : Option LikertDetection := do
  let fields ← v.object?
  let rule ← Json.optional? LikertRule.ofJson? ["rule"] fields
  return ⟨rule⟩

end SurveyTables
