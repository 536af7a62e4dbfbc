import SurveyTables.Net.Problems
import SurveyTables.Proofs.Decimal.Order

/-!
# Nets without faults

* `codesProblems_eq_nil_iff` : a list of codes has no fault if it has a code and all of them are on
  offer;
* `rangeProblems_eq_nil_iff` : a range whose values may be missing has no fault if they make a
  well-formed net.
-/

namespace SurveyTables

/-! ## Codes -/

section
variable {codes valid : List String}

theorem emptyProblems_eq_nil_iff : emptyProblems codes = [] ↔ codes ≠ [] := by
  unfold emptyProblems
  split <;> simp_all

theorem invalidProblems_eq_nil_iff : invalidProblems valid codes = [] ↔ ∀ c ∈ codes, c ∈ valid := by
  have hfilter : (codes.filter fun c => !valid.contains c) = [] ↔ ∀ c ∈ codes, c ∈ valid := by
    rw [List.filter_eq_nil_iff]
    simp
  rw [← hfilter, invalidProblems]
  split <;> simp_all

theorem codesProblems_eq_nil_iff :
    codesProblems (some valid) codes = [] ↔ codes ≠ [] ∧ ∀ c ∈ codes, c ∈ valid := by
  rw [← emptyProblems_eq_nil_iff, ← invalidProblems_eq_nil_iff]
  exact List.append_eq_nil_iff

end

/-! ## Ranges -/

theorem filter_isFinite {x : Float} (h : x.isFinite) :
    (some x).filter Float.isFinite = some x := by
  rw [Option.filter_some, if_pos h]

theorem filter_isFinite_eq_none {x : Float} (h : x.isFinite = false) :
    (some x).filter Float.isFinite = none := by
  rw [Option.filter_some, if_neg (Bool.eq_false_iff.1 h)]

theorem upperProblems_eq_nil_iff {lower : Float} (h : lower.isFinite) {upper : Option Float} :
    upperProblems (some lower) upper = [] ↔
      upper.any fun y => y.isFinite && decide (lower ≤ y) := by
  cases upper with
  | none => simp [upperProblems]
  | some y =>
    cases hy : y.isFinite with
    | false => simp [upperProblems, filter_isFinite_eq_none hy, hy]
    | true =>
      have hle : ¬ y < lower ↔ lower ≤ y :=
        ⟨le_of_not_lt (isNaN_of_isFinite h) (isNaN_of_isFinite hy), not_lt_of_le⟩
      simp [upperProblems, filter_isFinite hy, hy, ← hle]

/-- The values of a faultless range make a well-formed net, under any label. -/
theorem rangeProblems_eq_nil_iff (label : Option String) {lower upper : Option Float}
    {op : RangeOperator} :
    rangeProblems lower op upper = [] ↔
      ∃ x, lower = some x ∧ RangeNet.wellFormed ⟨label, op, x, upper⟩ := by
  cases lower with
  | none => simp [rangeProblems]
  | some x =>
    cases hx : x.isFinite with
    | false => simp [rangeProblems, RangeNet.wellFormed, filter_isFinite_eq_none hx, hx]
    | true =>
      cases hop : op.needsUpper with
      | false => simp [rangeProblems, RangeNet.wellFormed, filter_isFinite hx, hx, hop]
      | true =>
        have hupper : upperProblems (some x) upper = [] ↔ _ := upperProblems_eq_nil_iff hx
        simp [rangeProblems, RangeNet.wellFormed, filter_isFinite hx, hx, hop, hupper]

end SurveyTables
