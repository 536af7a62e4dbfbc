import SurveyTables.Record
import SurveyTables.Text.Order

/-!
# Datasets

A `Dataset` is a header of variable codes and the respondents' records in order.

* `ofColumns` : a header without records, refused if a code repeats;
* `ofRecords` : records under the sorted union of their codes;
* `pushRow` : one more respondent from the fields of a row, refused if there are more fields than
  codes; fields may be missing at the end.
-/

namespace SurveyTables

/-- Why a header or a row is refused. -/
inductive DatasetError where
  | duplicateColumn (code : String)
  | rowTooLong (row expected actual : Nat)
  deriving DecidableEq, Repr

/-- The wording of a refusal. -/
def DatasetError.message : DatasetError → String
  | .duplicateColumn code => "Duplicate variable code in header: " ++ code
  | .rowTooLong row expected actual =>
    s!"Row {row} has {actual} fields but the header declares {expected}"

/-- Variable codes and respondents. -/
structure Dataset where
  columns : List String
  records : List Record

namespace Dataset

/-- No codes and no respondents. -/
def empty : Dataset := ⟨[], []⟩

/-- The first element that equals one of `seen` or one before it. -/
def firstRepeat? : List String → List String → Option String
  | _, [] => none
  | seen, c :: cs => if c ∈ seen then some c else firstRepeat? (c :: seen) cs

def ofColumns (columns : List String) : Except DatasetError Dataset :=
  match firstRepeat? [] columns with
  | some c => .error (.duplicateColumn c)
  | none => .ok ⟨columns, []⟩

def ofRecords (records : List Record) : Dataset :=
  ⟨Text.sortTexts (records.flatMap Record.codes).eraseDups, records⟩

/-- The dataset with one more respondent. -/
def push (d : Dataset) (r : Record) : Dataset := ⟨d.columns, d.records ++ [r]⟩

/-- The respondent whose answers are the fields of a row, under the codes from the first on. -/
def recordOfRow (columns fields : List String) : Record :=
  Record.ofList (columns.zip (fields.map Value.ofField))

def pushRow (d : Dataset) (fields : List String) : Except DatasetError Dataset :=
  if fields.length > d.columns.length then
    .error (.rowTooLong (d.records.length + 1) d.columns.length fields.length)
  else .ok (d.push (recordOfRow d.columns fields))

/-- The header holds the code. -/
def hasColumn (d : Dataset) (code : String) : Bool := d.columns.contains code

/-- The number of respondents. -/
def size (d : Dataset) : Nat := d.records.length

theorem columns_pushRow {d e : Dataset} {fields : List String} (h : d.pushRow fields = .ok e) :
    e.columns = d.columns := by
  unfold pushRow at h
  split at h
  · simp at h
  · obtain rfl := Except.ok.inj h
    rfl

theorem size_pushRow {d e : Dataset} {fields : List String} (h : d.pushRow fields = .ok e) :
    e.size = d.size + 1 := by
  unfold pushRow at h
  split at h
  · simp at h
  · obtain rfl := Except.ok.inj h
    simp [size, push]

end Dataset

end SurveyTables
