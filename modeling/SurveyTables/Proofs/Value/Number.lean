import SurveyTables.Value

/-!
# Answers that are numbers

* `beq_of_isNaN`, `not_le_of_isNaN_left`, `not_le_of_isNaN_right` : not a number is equal to nothing
  and neither below nor above anything;
* `numberText_of_isNaN`, `numberOfText?_nan` : it is shown as a text that is not read as a number;
* `Value.number?_ne_none_of_display` : an answer shown as a number text is a number. So a comparison
  with a number text that falls back to texts never finds them equal.
-/

namespace SurveyTables

theorem unpack_of_isNaN {x : Float} (h : x.isNaN) : x.toModel.unpack = .notANumber := by
  have hu : x.toModel.unpack.isNaN = true := h
  cases hx : x.toModel.unpack with
  | notANumber => rfl
  | infinity s => rw [hx] at hu; cases hu
  | zero s => rw [hx] at hu; cases hu
  | finite s m e hm => rw [hx] at hu; cases hu

theorem isNaN_of_isFinite {x : Float} (h : x.isFinite) : x.isNaN = false := by
  rw [Bool.eq_false_iff]
  intro hnan
  change x.toModel.unpack.isFinite = true at h
  rw [unpack_of_isNaN hnan] at h
  cases h

theorem beq_of_isNaN {x : Float} (h : x.isNaN) (y : Float) : (x == y) = false := by
  change (x.toModel.unpack.compare y.toModel.unpack == some .eq) = false
  rw [unpack_of_isNaN h]
  rfl

theorem le_iff_compare (x y : Float) :
    x ≤ y ↔ (x.toModel.unpack.compare y.toModel.unpack).any (·.isLE) = true := by
  show decide (x.toModel ≤ y.toModel) = true ↔ _
  rw [decide_eq_true_iff]
  rfl

theorem not_le_of_isNaN_left {x : Float} (h : x.isNaN) (y : Float) : ¬ x ≤ y := by
  rw [le_iff_compare, unpack_of_isNaN h]
  exact Bool.false_ne_true

theorem not_le_of_isNaN_right {y : Float} (h : y.isNaN) (x : Float) : ¬ x ≤ y := by
  rw [le_iff_compare, unpack_of_isNaN h]
  cases x.toModel.unpack <;> exact Bool.false_ne_true

theorem numberText_of_isNaN {x : Float} (h : x.isNaN) : numberText x = "NaN" := by
  rw [numberText, beq_of_isNaN h, Decimal.plain, if_pos h]
  rfl

theorem numberOfText?_nan : numberOfText? "NaN" = none := by decide +kernel

namespace Value

/-- An answer that is shown as a number text is a number. -/
theorem number?_ne_none_of_display {v : Value} {x : Float} (hm : v.isMissing = false)
    (hx : numberOfText? v.display = some x) : v.number? ≠ none := by
  intro hn
  cases v with
  | empty => cases hm
  | text s =>
    have hs : numberOfText? s = some x := hx
    rw [number?, hs] at hn
    cases hn
  | number y =>
    have hy : y.isNaN := by simpa [number?] using hn
    rw [display, numberText_of_isNaN hy, numberOfText?_nan] at hx
    cases hx

end Value

end SurveyTables
