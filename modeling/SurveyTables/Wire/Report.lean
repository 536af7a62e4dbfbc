import SurveyTables.Report.Basic
import SurveyTables.Timestamp.Rfc3339
import SurveyTables.Wire.Plan

/-!
# Reports in JSON

The statistics of a column are an object whose `type` says of which kind they are; it is kept as a
whole until the kind is known. Counts are natural numbers below `2 ^ 64`, and the time of the run is a
text in RFC 3339.
-/

namespace SurveyTables

/-- The count that JSON denotes. -/
def countOfJson? (v : Json) : Option Nat := v.natBelow? UInt64.size

/-- The statistic, which may be missing, with this name. -/
def statisticOf? (name : String) (fields : Json.Fields) : Option (Option Float) :=
  Json.optional? Json.float? [name] fields

/-- A frequency as JSON. -/
def Frequency.toJson (f : Frequency) : Json :=
  .object [("code", .string f.code), ("count", .nat f.count), ("percent", .real f.percent)]

/-- The frequency that JSON denotes. -/
def Frequency.ofJson? (v : Json) : Option Frequency := do
  let fields ← v.object?
  let code ← Json.required? Json.string? ["code"] fields
  let count ← Json.required? countOfJson? ["count"] fields
  let percent ← Json.required? Json.float? ["percent"] fields
  return ⟨code, count, percent⟩

/-- The frequency of a net as JSON. -/
def NetFrequency.toJson (f : NetFrequency) : Json :=
  .object [("label", .string f.label), ("count", .nat f.count), ("percent", .real f.percent)]

/-- The frequency of a net that JSON denotes. -/
def NetFrequency.ofJson? (v : Json) : Option NetFrequency := do
  let fields ← v.object?
  let label ← Json.required? Json.string? ["label"] fields
  let count ← Json.required? countOfJson? ["count"] fields
  let percent ← Json.required? Json.float? ["percent"] fields
  return ⟨label, count, percent⟩

/-- The statistics of a column as JSON. -/
def ColumnStats.toJson : ColumnStats → Json
  | .categorical s =>
    .object [("type", .string "categorical"), ("base", .nat s.base),
      ("frequencies", .ofList Frequency.toJson s.frequencies),
      ("nets", .ofList NetFrequency.toJson s.nets)]
  | .numeric s =>
    .object [("type", .string "numeric"), ("base", .nat s.base), ("count", .nat s.count),
      ("mean", .ofOption .real s.mean), ("median", .ofOption .real s.median),
      ("stdDev", .ofOption .real s.deviation)]
  | .likert s =>
    .object [("type", .string "likert"), ("base", .nat s.base), ("topBox", .ofOption .real s.top),
      ("bottomBox", .ofOption .real s.bottom)]

/-- The shares of codes and nets that the fields of an object denote. -/
def CategoricalStats.ofFields? (fields : Json.Fields) : Option CategoricalStats := do
  let base ← Json.required? countOfJson? ["base"] fields
  let frequencies ← Json.required? (Json.listOf? Frequency.ofJson?) ["frequencies"] fields
  let nets ← Json.required? (Json.listOf? NetFrequency.ofJson?) ["nets"] fields
  return ⟨base, frequencies, nets⟩

/-- The statistics of numbers that the fields of an object denote. -/
def NumericStats.ofFields? (fields : Json.Fields) : Option NumericStats := do
  let base ← Json.required? countOfJson? ["base"] fields
  let count ← Json.required? countOfJson? ["count"] fields
  let mean ← statisticOf? "mean" fields
  let median ← statisticOf? "median" fields
  let deviation ← statisticOf? "stdDev" fields
  return ⟨base, count, mean, median, deviation⟩

/-- The shares of boxes that the fields of an object denote. -/
def BoxStats.ofFields? (fields : Json.Fields) : Option BoxStats := do
  let base ← Json.required? countOfJson? ["base"] fields
  let top ← statisticOf? "topBox" fields
  let bottom ← statisticOf? "bottomBox" fields
  return ⟨base, top, bottom⟩

/-- The statistics of a column that JSON denotes. -/
def ColumnStats.ofJson? (v : Json) : Option ColumnStats := do
  let fields ← v.keptFields?
  match ← Json.required? Json.string? ["type"] fields with
  | "categorical" => (CategoricalStats.ofFields? fields).map ColumnStats.categorical
  | "numeric" => (NumericStats.ofFields? fields).map ColumnStats.numeric
  | "likert" => (BoxStats.ofFields? fields).map ColumnStats.likert
  | _ => none

/-- A column with its statistics as JSON. -/
def ColumnEntry.toJson (e : ColumnEntry) : Json :=
  .object [("column", e.column.toJson), ("stats", e.stats.toJson)]

/-- The column with its statistics that JSON denotes. -/
def ColumnEntry.ofJson? (v : Json) : Option ColumnEntry := do
  let fields ← v.object?
  let column ← Json.required? BannerColumn.ofJson? ["column"] fields
  let stats ← Json.required? ColumnStats.ofJson? ["stats"] fields
  return ⟨column, stats⟩

/-- A table as JSON. -/
def Table.toJson (t : Table) : Json :=
  .object [("questionId", .string t.questionId), ("questionText", .string t.questionText),
    ("questionType", t.kind.toJson), ("data", .ofList ColumnEntry.toJson t.entries)]

/-- The table that JSON denotes. -/
def Table.ofJson? (v : Json) : Option Table := do
  let fields ← v.object?
  let questionId ← Json.required? Json.string? ["questionId"] fields
  let questionText ← Json.required? Json.string? ["questionText"] fields
  let kind ← Json.required? TableKind.ofJson? ["questionType"] fields
  let entries ← Json.required? (Json.listOf? ColumnEntry.ofJson?) ["data"] fields
  return ⟨questionId, questionText, kind, entries⟩

/-- A timestamp as JSON. -/
def Timestamp.toJson (t : Timestamp) : Json := .string (String.ofList t.rfc3339)

/-- The timestamp that JSON denotes. -/
def Timestamp.ofJson? (v : Json) : Option Timestamp :=
  v.string?.bind fun s => Timestamp.ofRfc3339? s.toList

/-- The heading of a report as JSON. -/
def ReportHeading.toJson (h : ReportHeading) : Json :=
  .object [("projectName", .string h.projectName), ("bannerName", .string h.bannerName),
    ("totalBase", .nat h.totalBase), ("generatedAt", h.generatedAt.toJson)]

/-- The heading of a report that JSON denotes. -/
def ReportHeading.ofJson? (v : Json) : Option ReportHeading := do
  let fields ← v.object?
  let projectName ← Json.required? Json.string? ["projectName"] fields
  let bannerName ← Json.required? Json.string? ["bannerName"] fields
  let totalBase ← Json.required? countOfJson? ["totalBase"] fields
  let generatedAt ← Json.required? Timestamp.ofJson? ["generatedAt"] fields
  return ⟨projectName, bannerName, totalBase, generatedAt⟩

/-- A report as JSON. -/
def Report.toJson (r : Report) : Json :=
  .object [("metadata", r.heading.toJson), ("tables", .ofList Table.toJson r.tables)]

/-- The report that JSON denotes. -/
def Report.ofJson? (v : Json) : Option Report := do
  let fields ← v.object?
  let heading ← Json.required? ReportHeading.ofJson? ["metadata"] fields
  let tables ← Json.required? (Json.listOf? Table.ofJson?) ["tables"] fields
  return ⟨heading, tables⟩

end SurveyTables
