import SurveyTables.Net.Draft
import SurveyTables.Wire.Data

/-!
# Nets in JSON

A net is an object whose `kind` is `codes` or `range`; it is kept as a whole until the kind is
known. A draft of a net is an object any of whose fields may be missing or null.
-/

namespace SurveyTables

/-- A bound as JSON: its symbol. -/
def RangeOperator.toJson (op : RangeOperator) : Json := .string op.symbol

/-- The bound that JSON denotes. -/
def RangeOperator.ofJson? (v : Json) : Option RangeOperator := v.keptName?.bind ofExactSymbol?

/-- A net as JSON. -/
def Net.toJson : Net → Json
  | .codes n =>
    .object [("kind", .string "codes"), ("label", .ofOption .string n.label),
      ("codes", .ofList .string n.codes)]
  | .range n =>
    .object [("kind", .string "range"), ("label", .ofOption .string n.label),
      ("operator", n.operator.toJson), ("value1", .real n.value1),
      ("value2", .ofOption .real n.value2)]

/-- The codes net that the fields of an object denote. -/
def CodesNet.ofFields? (fields : Json.Fields) : Option CodesNet := do
  let label ← Json.optional? Json.string? ["label"] fields
  let codes ← Json.withDefault? (Json.listOf? Json.string?) [] ["codes"] fields
  return ⟨label, codes⟩

/-- The range net that the fields of an object denote. -/
def RangeNet.ofFields? (fields : Json.Fields) : Option RangeNet := do
  let label ← Json.optional? Json.string? ["label"] fields
  let op ← Json.required? RangeOperator.ofJson? ["operator"] fields
  let value1 ← Json.required? Json.float? ["value1"] fields
  let value2 ← Json.optional? Json.float? ["value2"] fields
  return ⟨label, op, value1, value2⟩

/-- The net that JSON denotes. -/
def Net.ofJson? (v : Json) : Option Net := do
  let fields ← v.keptFields?
  match ← Json.required? Json.string? ["kind"] fields with
  | "codes" => (CodesNet.ofFields? fields).map Net.codes
  | "range" => (RangeNet.ofFields? fields).map Net.range
  | _ => none

/-- A draft as JSON. -/
def NetDraft.toJson (d : NetDraft) : Json :=
  .object [("kind", .ofOption .string d.kind), ("label", .ofOption .string d.label),
    ("codes", .ofOption (.ofList Value.toJson) d.codes),
    ("operator", .ofOption .string d.operator), ("value1", .ofOption Value.toJson d.value1),
    ("value2", .ofOption Value.toJson d.value2)]

/-- The draft that JSON denotes. -/
def NetDraft.ofJson? (v : Json) : Option NetDraft := do
  let fields ← v.object?
  let kind ← Json.optional? Json.string? ["kind"] fields
  let label ← Json.optional? Json.string? ["label"] fields
  let codes ← Json.optional? (Json.listOf? Value.ofJson?) ["codes"] fields
  let operator ← Json.optional? Json.string? ["operator"] fields
  let value1 ← Json.optional? Value.ofJson? ["value1"] fields
  let value2 ← Json.optional? Value.ofJson? ["value2"] fields
  return ⟨kind, label, codes, operator, value1, value2⟩

end SurveyTables
