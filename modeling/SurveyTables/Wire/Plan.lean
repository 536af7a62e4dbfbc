import SurveyTables.Banner
import SurveyTables.TabPlan
import SurveyTables.Wire.Net

/-!
# Banners and tab plans in JSON

Some fields have a second name under which they are read too: the columns and groups of a banner, and
the id of a question.
-/

namespace SurveyTables

/-- A column as JSON; the group is left out if there is none. -/
def BannerColumn.toJson (c : BannerColumn) : Json :=
  .object ([("id", .string c.id), ("name", .string c.name), ("equation", .string c.equation)] ++
    match c.group with
    | some g => [("parentGroupName", .string g)]
    | none => [])

/-- The column that JSON denotes. -/
def BannerColumn.ofJson? (v : Json) : Option BannerColumn := do
  let fields ← v.object?
  let id ← Json.required? Json.string? ["id"] fields
  let name ← Json.required? Json.string? ["name"] fields
  let equation ← Json.withDefault? Json.string? "" ["equation"] fields
  let group ← Json.optional? Json.string? ["parentGroupName"] fields
  return ⟨id, name, equation, group⟩

/-- A group of columns as JSON. -/
def BannerGroup.toJson (g : BannerGroup) : Json :=
  .object [("id", .string g.id), ("name", .string g.name),
    ("columns", .ofList BannerColumn.toJson g.columns)]

/-- The group of columns that JSON denotes. -/
def BannerGroup.ofJson? (v : Json) : Option BannerGroup := do
  let fields ← v.object?
  let id ← Json.required? Json.string? ["id"] fields
  let name ← Json.required? Json.string? ["name"] fields
  let columns ←
    Json.withDefault? (Json.listOf? BannerColumn.ofJson?) [] ["columns", "banner_columns"] fields
  return ⟨id, name, columns⟩

/-- A banner as JSON. -/
def BannerPlan.toJson (b : BannerPlan) : Json :=
  .object [("name", .string b.name), ("groups", .ofList BannerGroup.toJson b.groups)]

/-- The banner that JSON denotes. -/
def BannerPlan.ofJson? (v : Json) : Option BannerPlan := do
  let fields ← v.object?
  let name ← Json.withDefault? Json.string? "" ["name"] fields
  let groups ←
    Json.withDefault? (Json.listOf? BannerGroup.ofJson?) [] ["groups", "banner_groups"] fields
  return ⟨name, groups⟩

/-- A kind of table as JSON: its name. -/
def TableKind.toJson (k : TableKind) : Json := .string k.name

/-- The kind of table that JSON denotes. -/
def TableKind.ofJson? (v : Json) : Option TableKind := v.string?.map ofName

/-- A question to tabulate as JSON. -/
def TabQuestion.toJson (q : TabQuestion) : Json :=
  .object [("questionId", .string q.id), ("questionText", .string q.text),
    ("questionType", q.kind.toJson), ("topBoxCodes", .ofOption (.ofList .real) q.topBox),
    ("bottomBoxCodes", .ofOption (.ofList .real) q.bottomBox), ("nets", .ofList Net.toJson q.nets)]

/-- The question to tabulate that JSON denotes. -/
def TabQuestion.ofJson? (v : Json) : Option TabQuestion := do
  let fields ← v.object?
  let id ← Json.required? Json.string? ["questionId", "variable"] fields
  let text ← Json.withDefault? Json.string? "" ["questionText"] fields
  let kind ← Json.withDefault? TableKind.ofJson? .categorical ["questionType"] fields
  let topBox ← Json.optional? (Json.listOf? Json.float?) ["topBoxCodes"] fields
  let bottomBox ← Json.optional? (Json.listOf? Json.float?) ["bottomBoxCodes"] fields
  let nets ← Json.withDefault? (Json.listOf? Net.ofJson?) [] ["nets"] fields
  return ⟨id, text, kind, topBox, bottomBox, nets⟩

/-- A tab plan as JSON. -/
def TabPlan.toJson (p : TabPlan) : Json :=
  .object [("projectName", .ofOption .string p.projectName),
    ("questions", .ofList TabQuestion.toJson p.questions)]

/-- The tab plan that JSON denotes. -/
def TabPlan.ofJson? (v : Json) : Option TabPlan := do
  let fields ← v.object?
  let projectName ← Json.optional? Json.string? ["projectName"] fields
  let questions ← Json.withDefault? (Json.listOf? TabQuestion.ofJson?) [] ["questions"] fields
  return ⟨projectName, questions⟩

end SurveyTables
