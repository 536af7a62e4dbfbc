import SurveyTables.Banner
import SurveyTables.TabPlan

/-!
# Cells and tables

What a table holds: for each column of the banner, the statistics of its respondents.

* `ColumnStats` : shares of codes and nets, statistics of numbers, or shares of two boxes, each over
  a base, the number of respondents in the column;
* `ColumnEntry`, `Table` : a column with its statistics, and the columns of one question.

Shares are held at full precision and rounded only when they are shown.
-/

namespace SurveyTables

/-- A code, how many gave it, and their share in percent. -/
structure Frequency where
  code : String
  count : Nat
  percent : Float
  deriving DecidableEq

/-- A net, how many belong to it, and their share in percent. -/
structure NetFrequency where
  label : String
  count : Nat
  percent : Float
  deriving DecidableEq

/-- The shares of codes and nets. -/
structure CategoricalStats where
  base : Nat
  frequencies : List Frequency
  nets : List NetFrequency
  deriving DecidableEq

/-- The statistics of the numbers among the answers. -/
structure NumericStats where
  base : Nat
  count : Nat
  mean : Option Float
  median : Option Float
  deviation : Option Float
  deriving DecidableEq

/-- The shares of the top and bottom box in percent. -/
structure BoxStats where
  base : Nat
  top : Option Float
  bottom : Option Float
  deriving DecidableEq

/-- The statistics of one column. -/
inductive ColumnStats where
  | categorical (s : CategoricalStats)
  | numeric (s : NumericStats)
  | likert (s : BoxStats)
  deriving DecidableEq

namespace CategoricalStats

/-- The first frequency of a code. -/
def frequency? (s : CategoricalStats) (code : String) : Option Frequency :=
  s.frequencies.find? fun f => decide (f.code = code)

/-- The share of a code. -/
def percent? (s : CategoricalStats) (code : String) : Option Float :=
  (s.frequency? code).map Frequency.percent

/-- The share of the first net with this label. -/
def netPercent? (s : CategoricalStats) (label : String) : Option Float :=
  (s.nets.find? fun n => decide (n.label = label)).map NetFrequency.percent

end CategoricalStats

namespace ColumnStats

/-- The number of respondents in the column. -/
def base : ColumnStats → Nat
  | .categorical s => s.base
  | .numeric s => s.base
  | .likert s => s.base

/-- The shares of codes and nets. -/
def categorical? : ColumnStats → Option CategoricalStats
  | .categorical s => some s
  | _ => none

/-- The statistics of numbers. -/
def numeric? : ColumnStats → Option NumericStats
  | .numeric s => some s
  | _ => none

/-- The shares of boxes. -/
def likert? : ColumnStats → Option BoxStats
  | .likert s => some s
  | _ => none

end ColumnStats

/-- A column and its statistics. -/
structure ColumnEntry where
  column : BannerColumn
  stats : ColumnStats
  deriving DecidableEq

/-- The table of one question. -/
structure Table where
  questionId : String
  questionText : String
  kind : TableKind
  entries : List ColumnEntry
  deriving DecidableEq

namespace Table

/-- The statistics of the first column with this id. -/
def stats? (t : Table) (columnId : String) : Option ColumnStats :=
  (t.entries.find? fun e => decide (e.column.id = columnId)).map ColumnEntry.stats

/-- The ids of the columns, in order. -/
def columnIds (t : Table) : List String := t.entries.map fun e => e.column.id

end Table

end SurveyTables
