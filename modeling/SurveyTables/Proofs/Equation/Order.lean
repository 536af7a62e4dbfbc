import SurveyTables.Equation.Condition
import SurveyTables.Proofs.Decimal.Order

/-!
# Operators on numbers

* `Operator.ofOrdering`, `Operator.compare_eq` : what an operator says of two numbers depends only on
  how they compare;
* `Operator.compare_of_beq` : so it says the same of equal numbers;
* `Operator.count_compare`, `Operator.compare_greaterEqual`, `Operator.compare_lessEqual` : of two
  numbers one is below the other or they are equal, and the weak comparisons follow from the strict
  ones.
-/

namespace SurveyTables.Operator

/-- The verdict on two numbers that compare like this. Those that do not compare are only unequal. -/
def ofOrdering (o : Option Ordering) : Operator → Bool
  | .equal => o == some .eq
  | .notEqual => o != some .eq
  | .greater => o == some .gt
  | .less => o == some .lt
  | .greaterEqual => o.any Ordering.isGE
  | .lessEqual => o.any Ordering.isLE

theorem compare_eq (op : Operator) (x y : Float) :
    op.compare x y = op.ofOrdering (x.toModel.unpack.compare y.toModel.unpack) := by
  have hswap : y.toModel.unpack.compare x.toModel.unpack =
      (x.toModel.unpack.compare y.toModel.unpack).map Ordering.swap := compare_swap _ _
  cases op with
  | equal => rfl
  | notEqual => rfl
  | less =>
    rw [Bool.eq_iff_iff, ofOrdering, beq_iff_eq, ← lt_iff_compare]
    exact decide_eq_true_iff
  | lessEqual =>
    rw [Bool.eq_iff_iff]
    exact decide_eq_true_iff.trans (le_iff_compare x y)
  | greater =>
    rw [Bool.eq_iff_iff, ofOrdering, beq_iff_eq]
    refine (decide_eq_true_iff.trans (lt_iff_compare y x)).trans ?_
    rw [hswap]
    rcases x.toModel.unpack.compare y.toModel.unpack with _ | _ | _ | _ <;> decide
  | greaterEqual =>
    rw [Bool.eq_iff_iff]
    refine (decide_eq_true_iff.trans (le_iff_compare y x)).trans ?_
    rw [hswap, ofOrdering]
    rcases x.toModel.unpack.compare y.toModel.unpack with _ | _ | _ | _ <;> decide

theorem compare_of_beq {x y : Float} (h : x == y) (op : Operator) (z : Float) :
    op.compare x z = op.compare y z := by
  rw [compare_eq, compare_eq, compare_left_congr h]

theorem count_compare {x y : Float} (hx : x.isNaN = false) (hy : y.isNaN = false) :
    [less.compare x y, equal.compare x y, greater.compare x y].count true = 1 := by
  obtain ⟨o, ho⟩ := Option.isSome_iff_exists.1
    (isSome_compare (x := x.toModel.unpack) (y := y.toModel.unpack) hx hy)
  rw [compare_eq, compare_eq, compare_eq, ho]
  cases o <;> rfl

theorem compare_greaterEqual (x y : Float) :
    greaterEqual.compare x y = (greater.compare x y || equal.compare x y) := by
  rw [compare_eq, compare_eq, compare_eq]
  rcases x.toModel.unpack.compare y.toModel.unpack with _ | _ | _ | _ <;> rfl

theorem compare_lessEqual (x y : Float) :
    lessEqual.compare x y = (less.compare x y || equal.compare x y) := by
  rw [compare_eq, compare_eq, compare_eq]
  rcases x.toModel.unpack.compare y.toModel.unpack with _ | _ | _ | _ <;> rfl

end SurveyTables.Operator
