import SurveyTables.Decimal.Fixed
import SurveyTables.Delimited.Row
import SurveyTables.Report.Basic
import SurveyTables.Text.Order
import SurveyTables.Timestamp.Format

/-!
# Reports as delimited text

A report is a heading of plain lines, then for each table a title, its kind and rows of cells: names,
equations and bases of the columns, and the statistics.

* `WriteOptions` : dialect, ends of lines, the pattern of the time of the run, and the like;
* `Table.codes`, `Table.netLabels` : the codes, sorted, and the nets that have a row;
* `Table.statisticRows` : the rows below the bases;
* `Report.bytes`, `Report.text?` : the whole text, which is no text if the delimiter or quote is not
  in ASCII.
-/

namespace SurveyTables

/-- Settings for writing a report. -/
structure WriteOptions where
  dialect : Dialect
  lineEnd : LineEnd
  timestampFormat : String
  missingMarker : String
  groupRow : Bool
  deriving DecidableEq, Repr

/-- Commas, double quotes, line feeds, and no row of groups. -/
def WriteOptions.standard : WriteOptions :=
  ⟨.standard, .lf, "%-m/%-d/%Y, %-I:%M:%S %p", "-", false⟩

/-- The places of a share in percent. -/
def percentPlaces : Nat := 1

/-- The places of a statistic of numbers. -/
def statisticPlaces : Nat := 2

/-- A share in percent. -/
def percentText (x : Float) : String := String.ofList (Decimal.fixed x percentPlaces)

/-- The share of a code or net that a column does not have. -/
def zeroPercent : String := "0.0"

/-- A statistic, or the mark for a missing one. -/
def WriteOptions.statistic (o : WriteOptions) (places : Nat) (x : Option Float) : String :=
  match x with
  | some v => String.ofList (Decimal.fixed v places)
  | none => o.missingMarker

/-- A row of cells after its name. -/
structure ExportRow where
  label : String
  cells : List String
  deriving DecidableEq, Repr

/-- The fields of a row. -/
def ExportRow.fields (r : ExportRow) : List String := r.label :: r.cells

namespace Table

/-- The statistics of the columns that have shares of codes. -/
def categoricalColumns (t : Table) : List CategoricalStats :=
  t.entries.filterMap fun e => e.stats.categorical?

def codes (t : Table) : List String :=
  Text.sortTexts
    (t.categoricalColumns.flatMap fun s => s.frequencies.map Frequency.code).eraseDups

def netLabels (t : Table) : List String :=
  (t.categoricalColumns.flatMap fun s => s.nets.map NetFrequency.label).eraseDups

/-- The shares of a code, column by column. -/
def codeRow (t : Table) (code : String) : ExportRow :=
  ⟨"Code " ++ code ++ " %", t.entries.map fun e =>
    ((e.stats.categorical?.bind fun s => s.percent? code).map percentText).getD zeroPercent⟩

/-- The shares of a net, column by column. -/
def netRow (t : Table) (label : String) : ExportRow :=
  ⟨"Net " ++ label ++ " %", t.entries.map fun e =>
    ((e.stats.categorical?.bind fun s => s.netPercent? label).map percentText).getD zeroPercent⟩

/-- A statistic of numbers, column by column. -/
def numericRow (o : WriteOptions) (t : Table) (label : String)
    (get : NumericStats → Option Float) : ExportRow :=
  ⟨label, t.entries.map fun e => o.statistic statisticPlaces (e.stats.numeric?.bind get)⟩

/-- The share of a box, column by column. -/
def boxRow (o : WriteOptions) (t : Table) (label : String) (get : BoxStats → Option Float) :
    ExportRow :=
  ⟨label, t.entries.map fun e => o.statistic percentPlaces (e.stats.likert?.bind get)⟩

def statisticRows (o : WriteOptions) (t : Table) : List ExportRow :=
  match t.kind with
  | .numeric =>
    [t.numericRow o "Mean" NumericStats.mean, t.numericRow o "Median" NumericStats.median,
      t.numericRow o "Std Dev" NumericStats.deviation]
  | .likert => [t.boxRow o "Top Box %" BoxStats.top, t.boxRow o "Bottom Box %" BoxStats.bottom]
  | .categorical => t.codes.map t.codeRow ++ t.netLabels.map t.netRow

/-- The rows that name the columns, and their bases. -/
def headRows (o : WriteOptions) (t : Table) : List ExportRow :=
  (if o.groupRow then [⟨"Group", t.entries.map fun e => e.column.group.getD ""⟩] else []) ++
    [⟨"Column", t.entries.map fun e => e.column.name⟩,
      ⟨"Equation", t.entries.map fun e =>
        if e.column.equation = "" then totalEquation else e.column.equation⟩,
      ⟨"Base", t.entries.map fun e => toString e.stats.base⟩]

/-- All rows of a table. -/
def rows (o : WriteOptions) (t : Table) : List ExportRow := t.headRows o ++ t.statisticRows o

end Table

namespace WriteOptions

/-- A plain line. -/
def lineBytes (o : WriteOptions) (s : String) : List UInt8 := utf8Bytes s ++ o.lineEnd.bytes

/-- A row of cells. -/
def exportRowBytes (o : WriteOptions) (r : ExportRow) : List UInt8 :=
  o.dialect.rowBytes o.lineEnd (r.fields.map utf8Bytes)

end WriteOptions

def Table.bytes (o : WriteOptions) (t : Table) : List UInt8 :=
  o.lineBytes "" ++ o.lineBytes (t.questionId ++ ": " ++ t.questionText) ++
    o.lineBytes ("Type: " ++ t.kind.name) ++ o.lineBytes "" ++
    (t.rows o).flatMap o.exportRowBytes ++ o.lineBytes ""

/-- The lines above the tables. -/
def ReportHeading.lines (o : WriteOptions) (h : ReportHeading) : List String :=
  ["Cross-Tabulation Report", "Project: " ++ h.projectName, "Banner: " ++ h.bannerName,
    "Total Base: " ++ toString h.totalBase,
    "Generated: " ++ String.ofList (h.generatedAt.format o.timestampFormat.toList), ""]

namespace Report

def bytes (o : WriteOptions) (r : Report) : List UInt8 :=
  (r.heading.lines o).flatMap o.lineBytes ++ r.tables.flatMap (Table.bytes o)

def text? (o : WriteOptions) (r : Report) : Option String := ofUtf8Bytes? (r.bytes o)

end Report

end SurveyTables
