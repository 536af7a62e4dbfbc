import SurveyTables.Dataset
import SurveyTables.Equation.Reader

/-!
# Selecting respondents

* `Dataset.filter` : the records that satisfy an equation;
* `RowSelection` : the rows that an expression selects, kept as row numbers so that they can be
  found once and used for many tables;
* `RowSelection.records_select` : both ways find the records on which the expression holds.
-/

namespace SurveyTables

/-- Selected rows of a dataset: the first `size` of them, or the rows with the given numbers. -/
inductive RowSelection where
  | all (size : Nat)
  | rows (numbers : List Nat)
  deriving DecidableEq, Repr

namespace RowSelection

/-- The number of selected rows. -/
def size : RowSelection → Nat
  | .all n => n
  | .rows l => l.length

/-- The numbers of the selected rows, from zero. -/
def indices : RowSelection → List Nat
  | .all n => List.range n
  | .rows l => l

/-- The records in the selected rows. -/
def records (d : Dataset) : RowSelection → List Record
  | .all n => d.records.take n
  | .rows l => l.filterMap fun i => d.records[i]?

/-- The numbers, counted from `start`, of the records that satisfy `p`. -/
def numbersFrom (p : Record → Bool) : Nat → List Record → List Nat
  | _, [] => []
  | start, r :: rs =>
    if p r then start :: numbersFrom p (start + 1) rs else numbersFrom p (start + 1) rs

/-- The rows whose records satisfy the expression. -/
def select (d : Dataset) (e : Expression) : RowSelection :=
  if e.isAll then .all d.size else .rows (numbersFrom e.holds 0 d.records)

theorem filterMap_numbersFrom (p : Record → Bool) (l pre : List Record) :
    (numbersFrom p pre.length l).filterMap (fun i => (pre ++ l)[i]?) = l.filter p := by
  induction l generalizing pre with
  | nil => rfl
  | cons r l ih =>
    have hrest := ih (pre ++ [r])
    rw [List.length_append, List.length_singleton, List.append_assoc, List.singleton_append] at hrest
    unfold numbersFrom
    by_cases h : p r
    · simp [h, hrest]
    · simp [h, hrest]

theorem holds_of_isAll {e : Expression} (h : e.isAll) (r : Record) : e.holds r := by
  cases e <;> simp_all [Expression.isAll, Expression.holds]

/-- A selection holds the records that satisfy the expression, in order. -/
theorem records_select (d : Dataset) (e : Expression) :
    (select d e).records d = d.records.filter e.holds := by
  unfold select
  split
  · rename_i h
    have : d.records.filter e.holds = d.records :=
      List.filter_eq_self.2 fun r _ => holds_of_isAll h r
    rw [this]
    exact List.take_length
  · exact filterMap_numbersFrom e.holds d.records []

theorem length_numbersFrom (p : Record → Bool) (start : Nat) (l : List Record) :
    (numbersFrom p start l).length = (l.filter p).length := by
  induction l generalizing start with
  | nil => rfl
  | cons r l ih => unfold numbersFrom; by_cases h : p r <;> simp [h, ih]

/-- A selection is as large as the number of records that satisfy the expression. -/
theorem size_select (d : Dataset) (e : Expression) :
    (select d e).size = (d.records.filter e.holds).length := by
  unfold select
  split
  · rename_i h
    have : d.records.filter e.holds = d.records :=
      List.filter_eq_self.2 fun r _ => holds_of_isAll h r
    rw [this]
    rfl
  · exact length_numbersFrom _ _ _

end RowSelection

def Dataset.filter (d : Dataset) (equation : String) : List Record :=
  let e := Equation.parse equation
  if e.isAll then d.records else d.records.filter e.holds

/-- The shortcut for an equation of everyone changes nothing. -/
theorem Dataset.filter_eq (d : Dataset) (equation : String) :
    d.filter equation = d.records.filter (Equation.holds equation) := by
  by_cases h : (Equation.parse equation).isAll
  · have hall : d.records.filter (Equation.holds equation) = d.records :=
      List.filter_eq_self.2 fun r _ => RowSelection.holds_of_isAll h r
    rw [hall]
    exact if_pos h
  · exact if_neg h

end SurveyTables
