import SurveyTables.Decimal.Datum

/-!
# Descriptive statistics

Statistics of a list of doubles, in double arithmetic.

* `mean?`, `median?`, `deviation?` : none of an empty list;
* `medianOfData?` : the median where a NaN may have a minus sign; `medianOfData?_map` says that it is
  the median otherwise;
* `percent?` : a count as a share of a base, none of an empty base.
-/

namespace SurveyTables

/-- The sum, taken from left to right. The empty sum is minus zero, which adds nothing to any
double. -/
def total (xs : List Float) : Float := xs.foldl (· + ·) (-0.0)

def mean? (xs : List Float) : Option Float :=
  if xs.isEmpty then none else some (total xs / Float.ofNat xs.length)

/-- The doubles in ascending total order. -/
def sortFloats (xs : List Float) : List Float :=
  xs.mergeSort fun a b => decide (Binary64.rank a ≤ Binary64.rank b)

/-- The middle value of a sorted list, or the mean of its two middle values. -/
def middle? (sorted : List Float) : Option Float :=
  let half := sorted.length / 2
  if sorted.length % 2 = 1 then sorted[half]?
  else (sorted[half - 1]?).bind fun a => (sorted[half]?).map fun b => (a + b) / 2

def median? (xs : List Float) : Option Float := middle? (sortFloats xs)

/-- The data in ascending total order. -/
def sortData (data : List Datum) : List Datum :=
  data.mergeSort fun a b => decide (a.rank ≤ b.rank)

def medianOfData? (data : List Datum) : Option Float := middle? ((sortData data).map Datum.toFloat)

theorem sortData_map (xs : List Float) :
    sortData (xs.map Datum.double) = (sortFloats xs).map Datum.double :=
  (List.map_mergeSort (f := Datum.double) fun _ _ _ _ => rfl).symm

theorem medianOfData?_map (xs : List Float) : medianOfData? (xs.map Datum.double) = median? xs := by
  have hid : Datum.toFloat ∘ Datum.double = id := rfl
  rw [medianOfData?, median?, sortData_map, List.map_map, hid, List.map_id]

def deviation? (xs : List Float) : Option Float :=
  (mean? xs).map fun m =>
    Float.sqrt (total (xs.map fun x => (x - m) * (x - m)) / Float.ofNat xs.length)

def percent? (count base : Nat) : Option Float :=
  if base = 0 then none else some (Float.ofNat count / Float.ofNat base * 100)

end SurveyTables
