import SurveyTables.Dataset
import SurveyTables.Json.Shape

/-!
# Answers and datasets in JSON

A value is null, a number or a string; a record is an object of values, a dataset an object with its
`columns` and `records`. The codes of a record are written in order.
-/

namespace SurveyTables

/-- A value as JSON. -/
def Value.toJson : Value → Json
  | .empty => .null
  | .number x => .real x
  | .text s => .string s

/-- The value that JSON denotes. -/
def Value.ofJson? : Json → Option Value
  | .null => some .empty
  | .string s => some (.text s)
  | v => v.float?.map Value.number

/-- A record as JSON. -/
def Record.toJson (r : Record) : Json :=
  .object ((Text.sortTexts r.codes).map fun code => (code, (r.get? code).elim .null Value.toJson))

/-- The record that JSON denotes; a later field replaces an earlier one of the same code. -/
def Record.ofJson? (v : Json) : Option Record := do
  let fields ← v.object?
  let entries ← fields.mapM fun f => (Value.ofJson? f.2).map fun x => (f.1, x)
  return .ofList entries

/-- A dataset as JSON. -/
def Dataset.toJson (d : Dataset) : Json :=
  .object [("columns", .ofList .string d.columns), ("records", .ofList Record.toJson d.records)]

/-- The dataset that JSON denotes. -/
def Dataset.ofJson? (v : Json) : Option Dataset := do
  let fields ← v.object?
  let columns ← Json.required? (Json.listOf? Json.string?) ["columns"] fields
  let records ← Json.required? (Json.listOf? Record.ofJson?) ["records"] fields
  return ⟨columns, records⟩

end SurveyTables
