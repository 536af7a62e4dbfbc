import Mathlib.Algebra.Order.Field.Power
import Mathlib.Algebra.Order.Floor.Semifield
import Mathlib.Data.Rat.Floor
import Mathlib.Tactic.FieldSimp
import Mathlib.Tactic.Linarith
import Mathlib.Tactic.NormNum
import Mathlib.Tactic.Positivity
import Mathlib.Tactic.Ring
import SurveyTables.Decimal.Fixed

/-!
# Storing a number

* `value` : the rational number that a decimal number is; `roundAt_eq_floor` : rounding it to
  places;
* `value_half_bounds`, `value_repeat_half` : halving never adds anything and loses a small part;
* `repeat_half_exact` : it loses nothing while the coefficient has room for the places it takes;
* `abs_value_repeat_dropPlace_sub_le` : what dropping places changes, and nothing if there are not
  too many (`repeat_dropPlace_of_le`).
-/

namespace SurveyTables.Decimal

/-- The number. -/
def value (d : Decimal) : ℚ := d.coefficient * 10 ^ d.exponent

theorem value_nonneg (d : Decimal) : 0 ≤ d.value := by
  unfold value
  positivity

/-! ## Rounding -/

/-- A power with an integer exponent as a quotient of two natural powers. -/
theorem zpow_eq_div {a : ℚ} (ha : a ≠ 0) (k : Int) : a ^ k = a ^ k.toNat / a ^ (-k).toNat := by
  have hk : k = (k.toNat : Int) - (-k).toNat := by omega
  conv_lhs => rw [hk]
  rw [zpow_sub₀ ha, zpow_natCast, zpow_natCast]

theorem roundHalfUp_eq_floor (n : Nat) {m : Nat} (hm : 0 < m) :
    roundHalfUp n m = ⌊(n / m : ℚ) + 1 / 2⌋₊ := by
  have hm' : (m : ℚ) ≠ 0 := Nat.cast_ne_zero.2 hm.ne'
  have hsplit : (n / m : ℚ) + 1 / 2 = ((2 * n + m : Nat) : ℚ) / ((2 * m : Nat) : ℚ) := by
    push_cast
    field_simp
  rw [roundHalfUp, hsplit, Nat.floor_div_eq_div]

theorem roundAt_eq_floor (d : Decimal) (places : Nat) :
    d.roundAt places = ⌊d.value * 10 ^ places + 1 / 2⌋₊ := by
  have hshift : d.value * 10 ^ places =
      ((d.coefficient * 10 ^ (d.exponent + places).toNat : Nat) : ℚ) /
        (10 ^ (-(d.exponent + places)).toNat : Nat) := by
    have h10 : (10 : ℚ) ≠ 0 := by norm_num
    rw [value, mul_assoc, ← zpow_natCast, ← zpow_add₀ h10, zpow_eq_div h10]
    push_cast
    rw [mul_div_assoc]
  rw [hshift, ← roundHalfUp_eq_floor _ (Nat.pow_pos (by decide))]
  rfl

/-! ## Halving -/

theorem value_half_of_even {d : Decimal} (h : d.coefficient % 2 = 0) :
    (half d).value = d.value / 2 := by
  have hc : (d.coefficient : ℚ) = 2 * (d.coefficient / 2 : Nat) := by
    exact_mod_cast (show d.coefficient = 2 * (d.coefficient / 2) by omega)
  rw [half, if_neg (by omega), value, value, hc]
  ring

theorem value_half_of_room {d : Decimal} (h : d.coefficient % 2 = 1)
    (hroom : d.coefficient * 5 < storeBound) : (half d).value = d.value / 2 := by
  rw [half, if_pos ⟨h, hroom⟩, value, value, zpow_sub_one₀ (by norm_num)]
  push_cast
  ring

/-- Without room for another place the last bit is lost. -/
theorem value_half_of_full {d : Decimal} (h : d.coefficient % 2 = 1)
    (hfull : storeBound ≤ d.coefficient * 5) :
    (half d).value = (d.value - 10 ^ d.exponent) / 2 := by
  have hc : (d.coefficient : ℚ) = 2 * (d.coefficient / 2 : Nat) + 1 := by
    exact_mod_cast (show d.coefficient = 2 * (d.coefficient / 2) + 1 by omega)
  rw [half, if_neg (by omega), value, value, hc]
  ring

/-- One step never adds anything, and loses no more than one part in `2 ^ 96 / 5`. -/
theorem value_half_bounds (d : Decimal) :
    (half d).value ≤ d.value / 2 ∧ d.value / 2 * (1 - 5 / 2 ^ 96) ≤ (half d).value := by
  have hpos : (0 : ℚ) ≤ 10 ^ d.exponent := by positivity
  have hd := d.value_nonneg
  have hexact (h : (half d).value = d.value / 2) :
      (half d).value ≤ d.value / 2 ∧ d.value / 2 * (1 - 5 / 2 ^ 96) ≤ (half d).value := by
    rw [h]
    exact ⟨le_rfl, by linarith⟩
  rcases Nat.mod_two_eq_zero_or_one d.coefficient with h | h
  · exact hexact (value_half_of_even h)
  · rcases Nat.lt_or_ge (d.coefficient * 5) storeBound with hroom | hfull
    · exact hexact (value_half_of_room h hroom)
    · have hcoefficient : (2 : ℚ) ^ 96 ≤ d.coefficient * 5 := by exact_mod_cast hfull
      have hunit : 2 ^ 96 * (10 : ℚ) ^ d.exponent ≤ d.value * 5 := by
        have hmul := mul_le_mul_of_nonneg_right hcoefficient hpos
        rw [value]
        linarith
      rw [value_half_of_full h hfull]
      constructor <;> linarith

theorem exponent_half (d : Decimal) : d.exponent - 1 ≤ (half d).exponent := by
  unfold half
  split
  · exact le_rfl
  · exact sub_le_self _ zero_le_one

theorem value_repeat_half (d : Decimal) (n : Nat) :
    (Nat.repeat half n d).value ≤ d.value / 2 ^ n ∧
      d.value / 2 ^ n * (1 - n * (5 / 2 ^ 96)) ≤ (Nat.repeat half n d).value := by
  have hd := d.value_nonneg
  induction n with
  | zero => simp [Nat.repeat]
  | succ n ih =>
    obtain ⟨hle, hge⟩ := ih
    obtain ⟨hstep, hstep'⟩ := value_half_bounds (Nat.repeat half n d)
    have hq : d.value / 2 ^ (n + 1) = d.value / 2 ^ n / 2 := by rw [pow_succ, div_mul_eq_div_div]
    have hpos : 0 ≤ d.value / 2 ^ n := by positivity
    rw [Nat.repeat, hq]
    refine ⟨by linarith, le_trans ?_ hstep'⟩
    push_cast
    have hmul := mul_le_mul_of_nonneg_right hge (show (0 : ℚ) ≤ (1 - 5 / 2 ^ 96) / 2 by norm_num)
    have hn : 0 ≤ d.value / 2 ^ n * (n * (5 / 2 ^ 96)) * (5 / 2 ^ 96) := by positivity
    linarith

theorem exponent_repeat_half (d : Decimal) (n : Nat) :
    d.exponent - n ≤ (Nat.repeat half n d).exponent := by
  induction n with
  | zero => simp [Nat.repeat]
  | succ n ih =>
    have hstep := exponent_half (Nat.repeat half n d)
    rw [Nat.repeat]
    push_cast
    linarith

theorem repeat_succ {α : Type} (f : α → α) (n : Nat) (a : α) :
    Nat.repeat f (n + 1) a = Nat.repeat f n (f a) := by
  induction n with
  | zero => rfl
  | succ n ih => exact congrArg f ih

/-- A number that needs no more than `r` places, and has room for them, is halved exactly. -/
theorem repeat_half_exact (n : Nat) : ∀ (d : Decimal) (r : Nat), 2 ^ n ∣ 2 ^ r * d.coefficient →
    d.coefficient * 5 ^ r < storeBound →
      (Nat.repeat half n d).value = d.value / 2 ^ n ∧
        d.exponent - r ≤ (Nat.repeat half n d).exponent := by
  induction n with
  | zero =>
    intro d r _ _
    simp [Nat.repeat]
  | succ n ih =>
    intro d r hdvd hroom
    rw [repeat_succ, pow_succ', div_mul_eq_div_div]
    rcases Nat.mod_two_eq_zero_or_one d.coefficient with h | h
    · have hhalf : half d = ⟨d.coefficient / 2, d.exponent⟩ := if_neg (by omega)
      have hc : d.coefficient = 2 * (d.coefficient / 2) := by omega
      have hdvd' : 2 ^ n ∣ 2 ^ r * (d.coefficient / 2) := by
        rw [hc, pow_succ', mul_left_comm] at hdvd
        exact Nat.dvd_of_mul_dvd_mul_left two_pos hdvd
      have hroom' : d.coefficient / 2 * 5 ^ r < storeBound :=
        lt_of_le_of_lt (Nat.mul_le_mul_right _ (Nat.div_le_self _ _)) hroom
      rw [← value_half_of_even h, hhalf]
      exact ih _ r hdvd' hroom'
    · -- an odd coefficient has to take a place, so one is left
      obtain ⟨r, rfl⟩ : ∃ k, r = k + 1 := by
        refine ⟨r - 1, (Nat.succ_pred_eq_of_ne_zero ?_).symm⟩
        rintro rfl
        have htwo : 2 ∣ 2 ^ 0 * d.coefficient := (dvd_pow_self 2 (Nat.succ_ne_zero n)).trans hdvd
        omega
      have hroom' : d.coefficient * 5 * 5 ^ r < storeBound := by
        rwa [pow_succ', ← mul_assoc] at hroom
      have hplace : d.coefficient * 5 < storeBound :=
        lt_of_le_of_lt (Nat.le_mul_of_pos_right _ (by positivity)) hroom'
      have hdvd' : 2 ^ n ∣ 2 ^ r * (d.coefficient * 5) := by
        rw [pow_succ', pow_succ', mul_assoc] at hdvd
        rw [← mul_assoc]
        exact (Nat.dvd_of_mul_dvd_mul_left two_pos hdvd).mul_right 5
      have hhalf : half d = ⟨d.coefficient * 5, d.exponent - 1⟩ := if_pos ⟨h, hplace⟩
      rw [← value_half_of_room h hplace, hhalf]
      obtain ⟨hvalue, hexponent⟩ := ih ⟨d.coefficient * 5, d.exponent - 1⟩ r hdvd' hroom'
      refine ⟨hvalue, le_trans ?_ hexponent⟩
      push_cast
      linarith

/-! ## Places -/

theorem dropPlace_of_le {d : Decimal} (h : 0 ≤ d.exponent + storePlaces) : dropPlace d = d :=
  if_pos h

/-- A place that is dropped is worth no more than the last one that stays. -/
theorem abs_value_dropPlace_sub_le (d : Decimal) :
    |(dropPlace d).value - d.value| ≤ 1 / 10 ^ 28 := by
  by_cases h : 0 ≤ d.exponent + storePlaces
  · rw [dropPlace_of_le h, sub_self, abs_zero]
    positivity
  · have hexponent : d.exponent ≤ -29 := by
      have hplaces : storePlaces = 28 := rfl
      omega
    have hpos : (0 : ℚ) < 10 ^ d.exponent := by positivity
    have hunit : (10 : ℚ) ^ d.exponent * 10 ≤ 1 / 10 ^ 28 := by
      have hle : (10 : ℚ) ^ d.exponent ≤ 10 ^ (-29 : Int) :=
        zpow_le_zpow_right₀ (by norm_num) hexponent
      calc (10 : ℚ) ^ d.exponent * 10 ≤ 10 ^ (-29 : Int) * 10 :=
            mul_le_mul_of_nonneg_right hle (by norm_num)
        _ = 1 / 10 ^ 28 := by norm_num
    -- ten units of the dropped place at the most
    suffices hten : |(dropPlace d).value - d.value| ≤ 10 ^ d.exponent * 10 from hten.trans hunit
    rw [dropPlace, if_neg h]
    split
    · rename_i hdigit
      have hc : (d.coefficient : ℚ) < 10 := by exact_mod_cast hdigit
      rw [value, value, Nat.cast_zero, zero_mul, zero_sub, abs_neg, abs_of_nonneg (by positivity),
        mul_comm]
      exact mul_le_mul_of_nonneg_left hc.le hpos.le
    · have hlow : ((d.coefficient + 5) / 10 : Nat) * 10 ≤ (d.coefficient + 5 : ℚ) := by
        exact_mod_cast Nat.div_mul_le_self (d.coefficient + 5) 10
      have hhigh : (d.coefficient : ℚ) ≤ ((d.coefficient + 5) / 10 : Nat) * 10 + 5 := by
        exact_mod_cast (show d.coefficient ≤ (d.coefficient + 5) / 10 * 10 + 5 by omega)
      have hdiff : |((d.coefficient + 5) / 10 : Nat) * 10 - (d.coefficient : ℚ)| ≤ 10 := by
        rw [abs_le]
        constructor <;> linarith
      have hfactor : (Decimal.mk ((d.coefficient + 5) / 10) (d.exponent + 1)).value - d.value =
          10 ^ d.exponent * (((d.coefficient + 5) / 10 : Nat) * 10 - d.coefficient) := by
        rw [value, value, zpow_add_one₀ (by norm_num)]
        ring
      rw [hfactor, abs_mul, abs_of_pos hpos]
      exact mul_le_mul_of_nonneg_left hdiff hpos.le

theorem abs_value_repeat_dropPlace_sub_le (d : Decimal) (n : Nat) :
    |(Nat.repeat dropPlace n d).value - d.value| ≤ n / 10 ^ 28 := by
  induction n with
  | zero => simp [Nat.repeat]
  | succ n ih =>
    have hstep := abs_value_dropPlace_sub_le (Nat.repeat dropPlace n d)
    have htriangle := abs_sub_le (Nat.repeat dropPlace (n + 1) d).value
      (Nat.repeat dropPlace n d).value d.value
    rw [Nat.repeat] at htriangle ⊢
    push_cast
    rw [add_div]
    linarith

theorem repeat_dropPlace_of_le {d : Decimal} (h : 0 ≤ d.exponent + storePlaces) (n : Nat) :
    Nat.repeat dropPlace n d = d := by
  induction n with
  | zero => rfl
  | succ n ih => rw [Nat.repeat, ih, dropPlace_of_le h]

end SurveyTables.Decimal
