import Mathlib.Data.Rat.Floor
import Mathlib.Tactic.FieldSimp
import Mathlib.Tactic.Linarith
import Mathlib.Tactic.NormNum
import Mathlib.Tactic.Positivity
import Mathlib.Tactic.Ring

/-!
# The nearest multiple

* `NearestMultiple places v q` : of all numbers with so many places `q` is the nearest to `v`, and
  the one away from zero if two are equally near;
* `NearestMultiple.neg`, `NearestMultiple.le`, `NearestMultiple.unique` : such a number changes its
  sign with `v`, does not fall where `v` rises, and there is only one;
* `nearestMultiple_floor` : for a magnitude it is the floor, in units of the last place, of the
  magnitude and one half.
-/

namespace SurveyTables.Decimal

/-- The number with so many places that is nearest to a value, a midpoint going away from zero. -/
structure NearestMultiple (places : Nat) (v q : ℚ) : Prop where
  multiple : ∃ k : ℤ, q = k / 10 ^ places
  nearest : ∀ k : ℤ, |q - v| ≤ |k / 10 ^ places - v|
  away : ∀ k : ℤ, |k / 10 ^ places - v| = |q - v| → |(k / 10 ^ places : ℚ)| ≤ |q|

namespace NearestMultiple

variable {places : Nat} {v w q r : ℚ}

theorem neg (h : NearestMultiple places v q) : NearestMultiple places (-v) (-q) := by
  have hflip (k : ℤ) : |(k / 10 ^ places : ℚ) - -v| = |((-k : ℤ) / 10 ^ places : ℚ) - v| := by
    rw [← abs_neg]
    push_cast
    ring_nf
  have herror : |-q - -v| = |q - v| := by rw [neg_sub_neg, abs_sub_comm]
  refine ⟨?_, fun k => ?_, fun k hk => ?_⟩
  · obtain ⟨k, rfl⟩ := h.multiple
    exact ⟨-k, by push_cast; ring⟩
  · rw [herror, hflip]
    exact h.nearest (-k)
  · rw [herror, hflip] at hk
    have haway := h.away (-k) hk
    push_cast at haway
    rwa [neg_div, abs_neg, ← abs_neg q] at haway

/-- Two numbers in the wrong order would be equally far from both values, which are then zero. -/
theorem le (hv : NearestMultiple places v q) (hw : NearestMultiple places w r) (h : v ≤ w) :
    q ≤ r := by
  by_contra hlt
  rw [not_le] at hlt
  obtain ⟨k, hk⟩ := hv.multiple
  obtain ⟨l, hl⟩ := hw.multiple
  have hq : |q - v| ≤ |r - v| := hl ▸ hv.nearest l
  have hr : |r - w| ≤ |q - w| := hk ▸ hw.nearest k
  have hv' : q + r ≤ 2 * v := by
    rcases abs_cases (q - v) with ⟨h₁, _⟩ | ⟨h₁, _⟩ <;>
      rcases abs_cases (r - v) with ⟨h₂, _⟩ | ⟨h₂, _⟩ <;> linarith
  have hw' : 2 * w ≤ q + r := by
    rcases abs_cases (q - w) with ⟨h₁, _⟩ | ⟨h₁, _⟩ <;>
      rcases abs_cases (r - w) with ⟨h₂, _⟩ | ⟨h₂, _⟩ <;> linarith
  obtain rfl : v = w := by linarith
  have htie : |r - v| = |q - v| := by
    rw [show r - v = -(q - v) by linarith, abs_neg]
  have hsame : |q| = |r| :=
    le_antisymm (hk ▸ hw.away k (hk ▸ htie.symm)) (hl ▸ hv.away l (hl ▸ htie))
  have hopposite : q = -r := (abs_eq_abs.1 hsame).resolve_left hlt.ne'
  obtain rfl : v = 0 := by linarith
  have hzero := hv.nearest 0
  rw [Int.cast_zero, zero_div, sub_zero, sub_zero, abs_zero] at hzero
  have hq0 : q = 0 := abs_nonpos_iff.1 hzero
  linarith

theorem unique (hq : NearestMultiple places v q) (hr : NearestMultiple places v r) : q = r :=
  le_antisymm (hq.le hr le_rfl) (hr.le hq le_rfl)

end NearestMultiple

theorem nearestMultiple_floor (places : Nat) {m : ℚ} (hm : 0 ≤ m) :
    NearestMultiple places m (⌊m * 10 ^ places + 1 / 2⌋₊ / 10 ^ places) := by
  have hscale : (0 : ℚ) < 10 ^ places := by positivity
  have hshift : 0 ≤ m * 10 ^ places + 1 / 2 := by positivity
  have hle := Nat.floor_le hshift
  have hlt := Nat.lt_floor_add_one (m * 10 ^ places + 1 / 2)
  generalize ⌊m * 10 ^ places + 1 / 2⌋₊ = u at *
  generalize hy : m * 10 ^ places = y at *
  have hy0 : 0 ≤ y := by rw [← hy]; positivity
  have hscaled (k : ℚ) : |k / 10 ^ places - m| = |k - y| / 10 ^ places := by
    rw [← hy, ← abs_of_pos hscale, ← abs_div, abs_of_pos hscale, sub_div,
      mul_div_cancel_right₀ _ hscale.ne']
  have herror : |u - y| ≤ 1 / 2 := abs_le.2 ⟨by linarith, by linarith⟩
  -- the other whole numbers are one half away or more, the larger ones more
  have hother (k : ℤ) (hk : k ≠ u) : 1 / 2 ≤ |k - y| ∧ (|k - y| ≤ 1 / 2 → (k : ℚ) + 1 ≤ u) := by
    rcases lt_or_gt_of_ne hk with hbelow | habove
    · have hstep : (k : ℚ) + 1 ≤ u := by exact_mod_cast hbelow
      have hfar := neg_le_abs (k - y)
      exact ⟨by linarith, fun _ => hstep⟩
    · have hstep : (u : ℚ) + 1 ≤ k := by exact_mod_cast habove
      have hfar := le_abs_self (k - y)
      exact ⟨by linarith, fun h => by linarith⟩
  refine ⟨⟨u, by rw [Int.cast_natCast]⟩, fun k => ?_, fun k hk => ?_⟩
  · rw [hscaled, hscaled]
    refine div_le_div_of_nonneg_right ?_ hscale.le
    rcases eq_or_ne k u with rfl | hk
    · rw [Int.cast_natCast]
    · exact herror.trans (hother k hk).1
  · rw [hscaled, hscaled, div_left_inj' hscale.ne'] at hk
    rcases eq_or_ne k u with rfl | hne
    · rw [Int.cast_natCast]
    · have hbelow := (hother k hne).2 (hk ▸ herror)
      have hnear := neg_le_abs (k - y)
      rw [abs_div, abs_div]
      refine div_le_div_of_nonneg_right (abs_le_abs ?_ ?_) (abs_nonneg _) <;> linarith

end SurveyTables.Decimal
