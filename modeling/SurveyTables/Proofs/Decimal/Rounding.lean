import SurveyTables.Proofs.Decimal.Binary64
import SurveyTables.Proofs.Decimal.Storing

/-!
# Rounding to places

A double is rounded after it has been stored, so after a first error. The error is harmless: a
midpoint of two places needs three places at the most and is stored exactly, and any other double
is further from every midpoint than the error.

* `Binary64.numerator`, `Binary64.halvings` : the magnitude as a quotient of natural numbers;
* `Stands` and `stands_of_store?` : what a stored number says of its double;
* `floor_eq_of_close` : a fraction that is not whole has the floor of all numbers close to it;
* `roundAt_of_stands` : so the stored number and the double are rounded alike;
* `value_ofFloat` : a double that is not stored is rounded from its magnitude.
-/

namespace SurveyTables

namespace Binary64

/-- The number that is halved. -/
def numerator (x : Float) : Nat := coefficient x * 2 ^ (power x).toNat

/-- How often it is halved. -/
def halvings (x : Float) : Nat := (-power x).toNat

theorem magnitude_eq_div (x : Float) : magnitude x = numerator x / 2 ^ halvings x := by
  rw [magnitude, numerator, halvings, Decimal.zpow_eq_div two_ne_zero]
  push_cast
  rw [mul_div_assoc]

theorem magnitude_nonneg (x : Float) : 0 ≤ magnitude x := by
  unfold magnitude
  positivity

section
variable {x : Float} (hx : x.isFinite)
include hx

theorem halvings_le : halvings x ≤ 1074 := by
  have hmin := (canonical_parts hx).min_le
  unfold halvings
  omega

theorem numerator_lt (h : 0 < halvings x) : numerator x < 2 ^ 53 := by
  have hpower : (power x).toNat = 0 := by
    unfold halvings at h
    omega
  rw [numerator, hpower, pow_zero, mul_one]
  exact (canonical_parts hx).coefficient_lt

theorem magnitude_le (h : 0 < halvings x) : magnitude x ≤ 2 ^ 53 * (1 / 2 ^ halvings x) := by
  have hle : (numerator x : ℚ) ≤ 2 ^ 53 := by exact_mod_cast (numerator_lt hx h).le
  rw [magnitude_eq_div, div_eq_mul_one_div]
  exact mul_le_mul_of_nonneg_right hle (by positivity)

end

end Binary64

namespace Decimal

open Binary64 (numerator halvings magnitude)

/-! ## What a stored number says of its double -/

/-- A stored number is exact for a double with three places or fewer, and otherwise misses it by a
small part of the double and what dropping places may add. -/
structure Stands (x : Float) (d : Decimal) : Prop where
  exact : 2 ^ halvings x ∣ 2 ^ 3 * numerator x → d.value = magnitude x
  close : |d.value - magnitude x| ≤ magnitude x / 2 ^ 64 + 1 / 10 ^ 24

theorem value_whole (w : Nat) : (Decimal.mk w 0).value = w := by
  rw [value, zpow_zero, mul_one]

/-- The stored form of a quotient. -/
theorem exists_of_store? {x : Float} {d : Decimal} (h : store? x = some d) :
    numerator x < storeBound ∧ ∃ e, e = Nat.repeat half (halvings x) ⟨numerator x, 0⟩ ∧
      d = Nat.repeat dropPlace (-e.exponent).toNat e := by
  unfold store? at h
  simp only [Nat.pow_eq] at h
  split at h
  · exact ⟨‹_›, _, rfl, (Option.some.inj h).symm⟩
  · cases h

theorem stands_of_store? {x : Float} (hx : x.isFinite) {d : Decimal} (h : store? x = some d) :
    Stands x d := by
  obtain ⟨hroom, e, he, rfl⟩ := exists_of_store? h
  have hn := Binary64.halvings_le hx
  have hw := Binary64.numerator_lt hx
  have hmagnitude := Binary64.magnitude_eq_div x
  have hpos := Binary64.magnitude_nonneg x
  constructor
  · intro hdvd
    -- a whole number needs no place, any other one has room for three
    obtain ⟨r, hr, hdvd, hroom⟩ : ∃ r ≤ 3, 2 ^ halvings x ∣ 2 ^ r * numerator x ∧
        numerator x * 5 ^ r < storeBound := by
      rcases Nat.eq_zero_or_pos (halvings x) with h0 | hpos
      · exact ⟨0, Nat.zero_le 3, by rw [h0]; exact one_dvd _, by rwa [pow_zero, mul_one]⟩
      · exact ⟨3, le_rfl, hdvd, lt_trans (Nat.mul_lt_mul_of_pos_right (hw hpos) (by decide))
          (by decide)⟩
    obtain ⟨hvalue, hexponent⟩ := repeat_half_exact (halvings x) ⟨numerator x, 0⟩ r hdvd hroom
    rw [← he] at hvalue hexponent
    have hplaces : 0 ≤ e.exponent + storePlaces := by
      have hstore : storePlaces = 28 := rfl
      simp only at hexponent
      omega
    rw [repeat_dropPlace_of_le hplaces, hvalue, value_whole, hmagnitude]
  · have hhalf := value_repeat_half ⟨numerator x, 0⟩ (halvings x)
    have hexponent := exponent_repeat_half ⟨numerator x, 0⟩ (halvings x)
    rw [value_whole, ← hmagnitude, ← he] at hhalf
    rw [← he, zero_sub] at hexponent
    have hn' : (halvings x : ℚ) ≤ 1074 := by exact_mod_cast hn
    have hdrops : ((-e.exponent).toNat : ℚ) ≤ halvings x := by
      exact_mod_cast (show (-e.exponent).toNat ≤ halvings x by omega)
    have hdrop := abs_value_repeat_dropPlace_sub_le e (-e.exponent).toNat
    have hpart : halvings x * (5 / 2 ^ 96 : ℚ) ≤ 1 / 2 ^ 64 := by linarith
    have hlost : magnitude x * (halvings x * (5 / 2 ^ 96)) ≤ magnitude x / 2 ^ 64 :=
      (mul_le_mul_of_nonneg_left hpart hpos).trans_eq (mul_one_div _ _)
    have hhalved : |e.value - magnitude x| ≤ magnitude x / 2 ^ 64 := by
      rw [abs_le]
      constructor <;> linarith
    have htriangle := abs_sub_le
      (Nat.repeat dropPlace (-e.exponent).toNat e).value e.value (magnitude x)
    linarith

/-! ## Rounding a stored number -/

theorem floor_eq_of_close {a b : Nat} (hb : 0 < b) (hdvd : ¬ b ∣ a) {z : ℚ}
    (hz : |z - a / b| < 1 / b) : ⌊z⌋₊ = ⌊(a / b : ℚ)⌋₊ := by
  have hb' : (0 : ℚ) < b := Nat.cast_pos.2 hb
  have hrest : 0 < a % b := Nat.pos_of_ne_zero fun h => hdvd (Nat.dvd_of_mod_eq_zero h)
  have hdivision := Nat.div_add_mod' a b
  have hlt := Nat.mod_lt a hb
  have hlow : ((a / b : Nat) : ℚ) ≤ a / b - 1 / b := by
    rw [← sub_div, le_div_iff₀ hb', le_sub_iff_add_le]
    exact_mod_cast (show a / b * b + 1 ≤ a by omega)
  have hhigh : (a / b : ℚ) + 1 / b ≤ (a / b : Nat) + 1 := by
    rw [← add_div, div_le_iff₀ hb', add_mul, one_mul]
    exact_mod_cast (show a + 1 ≤ a / b * b + b by omega)
  obtain ⟨hleft, hright⟩ := abs_lt.1 hz
  have hnonneg : (0 : ℚ) ≤ (a / b : Nat) := Nat.cast_nonneg _
  rw [Nat.floor_div_eq_div, Nat.floor_eq_iff (by linarith)]
  constructor <;> linarith

theorem scale_le {places : Nat} (hp : places ≤ 2) : (10 : ℚ) ^ places ≤ 100 := by
  exact_mod_cast Nat.pow_le_pow_right (by decide : 0 < 10) hp

/-- A quotient that is a midpoint at two places or fewer has at most three. -/
theorem dvd_of_midpoint {n w places : Nat} (hp : places ≤ 2)
    (h : 2 ^ (n + 1) ∣ 2 * w * 10 ^ places + 2 ^ n) : 2 ^ n ∣ 2 ^ 3 * w := by
  have hshifted : 2 ^ n ∣ 2 * w * 10 ^ places :=
    (Nat.dvd_add_left dvd_rfl).1 ((pow_dvd_pow 2 n.le_succ).trans h)
  have hten : 10 ^ places = 2 ^ places * 5 ^ places := Nat.mul_pow 2 5 places
  have hcoprime : Nat.Coprime (2 ^ n) (5 ^ places) := Nat.Coprime.pow _ _ (by decide)
  rw [hten, ← mul_assoc] at hshifted
  calc 2 ^ n ∣ 2 * w * 2 ^ places := hcoprime.dvd_of_dvd_mul_right hshifted
    _ ∣ 2 * w * 2 ^ 2 := mul_dvd_mul_left _ (pow_dvd_pow 2 hp)
    _ = 2 ^ 3 * w := by ring

section
variable {x : Float} (hx : x.isFinite) {d : Decimal} (hd : Stands x d) {places : Nat}
  (hp : places ≤ 2)
include hx hd hp

/-- The error in units of the last place. -/
theorem Stands.error_le (hn : 0 < halvings x) :
    |d.value - magnitude x| * 10 ^ places ≤ 1 / 2 ^ halvings x / 16 + 1 / 10 ^ 22 := by
  have hscale := scale_le hp
  have hle := Binary64.magnitude_le hx hn
  have hunit : (0 : ℚ) < 1 / 2 ^ halvings x := by positivity
  calc |d.value - magnitude x| * 10 ^ places
      ≤ (magnitude x / 2 ^ 64 + 1 / 10 ^ 24) * 100 :=
        mul_le_mul hd.close hscale (by positivity) ((abs_nonneg _).trans hd.close)
    _ ≤ 1 / 2 ^ halvings x / 16 + 1 / 10 ^ 22 := by linarith

theorem roundAt_of_stands : d.roundAt places = ⌊magnitude x * 10 ^ places + 1 / 2⌋₊ := by
  rw [roundAt_eq_floor]
  by_cases hdvd : 2 ^ halvings x ∣ 2 ^ 3 * numerator x
  · rw [hd.exact hdvd]
  · have hpos : 0 < halvings x := Nat.pos_of_ne_zero fun h => hdvd (by rw [h]; exact one_dvd _)
    have herror := hd.error_le hx hp hpos
    have hscale : (0 : ℚ) < 10 ^ places := by positivity
    rcases Nat.lt_or_ge (halvings x) 72 with hn | hn
    · -- the error is less than the distance of the double to the nearest midpoint
      have hunit : (1 : ℚ) / 2 ^ 71 ≤ 1 / 2 ^ halvings x :=
        one_div_le_one_div_of_le (by positivity)
          (pow_le_pow_right₀ one_le_two (Nat.le_of_lt_succ hn))
      have hshifted : magnitude x * 10 ^ places + 1 / 2 =
          ((2 * numerator x * 10 ^ places + 2 ^ halvings x : Nat) : ℚ) /
            (2 ^ (halvings x + 1) : Nat) := by
        rw [Binary64.magnitude_eq_div]
        push_cast
        field_simp
        ring
      have hdiff : d.value * 10 ^ places + 1 / 2 - (magnitude x * 10 ^ places + 1 / 2) =
          (d.value - magnitude x) * 10 ^ places := by ring
      have hgap : (1 : ℚ) / (2 ^ (halvings x + 1) : Nat) = 1 / 2 ^ halvings x / 2 := by
        push_cast
        rw [pow_succ, div_mul_eq_div_div]
      rw [hshifted]
      refine floor_eq_of_close (by positivity) (fun h => hdvd (dvd_of_midpoint hp h)) ?_
      rw [← hshifted, hdiff, abs_mul, abs_of_pos hscale, hgap]
      linarith
    · -- both are far below one half
      have hunit : (1 : ℚ) / 2 ^ halvings x ≤ 1 / 2 ^ 72 :=
        one_div_le_one_div_of_le (by positivity) (pow_le_pow_right₀ one_le_two hn)
      have hsmall : magnitude x * 10 ^ places ≤ 2 ^ 53 * (1 / 2 ^ 72) * 100 :=
        mul_le_mul ((Binary64.magnitude_le hx hpos).trans (by linarith)) (scale_le hp) hscale.le
          (by positivity)
      have hdiff := le_abs_self ((d.value - magnitude x) * 10 ^ places)
      rw [abs_mul, abs_of_pos hscale, sub_mul] at hdiff
      rw [Nat.floor_eq_zero.2 (by linarith), Nat.floor_eq_zero.2 (by linarith)]

end

theorem value_ofFloat (x : Float) : (ofFloat x).value = magnitude x := by
  have hexponent : min 0 (Binary64.power x) = -(halvings x : Int) := by
    unfold halvings
    omega
  rw [Binary64.magnitude_eq_div, ofFloat, value]
  simp only [Nat.pow_eq]
  rw [hexponent, zpow_neg, zpow_natCast, ← div_eq_mul_inv]
  change ((numerator x * 5 ^ halvings x : Nat) : ℚ) / 10 ^ halvings x = _
  have hten : (10 : ℚ) ^ halvings x = 2 ^ halvings x * 5 ^ halvings x := by
    rw [← mul_pow]
    norm_num
  push_cast
  rw [hten]
  field_simp

end Decimal

end SurveyTables
