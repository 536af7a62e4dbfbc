import Mathlib.Algebra.Order.Field.Power
import Mathlib.Data.Rat.Cast.Order
import Mathlib.Tactic.Positivity
import Mathlib.Tactic.Ring
import SurveyTables.Proofs.Decimal.Order

/-!
# The value of a double

* `unpack_of_fields` and `unpack_eq_ofParts` : a finite double is its sign, coefficient and power;
* `Canonical` and `canonical_parts` : the bounds on them;
* `magnitude`, `exact` : the rational number that a finite double is;
* `le_iff_exact_le` : finite doubles are ordered as their values, since one with a higher power is
  larger (`magnitude_lt_of_power_lt`);
* `unpack_pack_ofParts`, `exact_neg` : the negated double has the negated value.
-/

namespace SurveyTables.Binary64

open Float.Model (UnpackedFloat)
open Float.Model.UnpackedFloat
  (Sign pack packComponents unpack unpackExponent unpackMantissa unpackSign)

/-! ## The fields -/

theorem toNat_unpackExponent (x : Float) :
    (@unpackExponent .binary64 x.toModel.toBits.toBitVec).toNat = exponentField x := by
  show x.toBits.toNat >>> 52 % 2 ^ 11 = exponentField x
  rw [Nat.shiftRight_eq_div_pow]
  rfl

theorem toNat_unpackMantissa (x : Float) :
    (@unpackMantissa .binary64 x.toModel.toBits.toBitVec).toNat = fractionField x := by
  show x.toBits.toNat >>> 0 % 2 ^ 52 = fractionField x
  rfl

/-- The sign for a sign bit. -/
def signOf (negative : Bool) : Sign := if negative then .negative else .positive

theorem ofBitVec_unpackSign (x : Float) :
    Sign.ofBitVec (@unpackSign .binary64 x.toModel.toBits.toBitVec) = signOf (isNegative x) := by
  have hsign :
      (@unpackSign .binary64 x.toModel.toBits.toBitVec).toNat = x.toBits.toNat / 2 ^ 63 := by
    show x.toBits.toNat >>> 63 % 2 ^ 1 = _
    have hlt := x.toBits.toNat_lt
    rw [Nat.shiftRight_eq_div_pow]
    omega
  cases h : isNegative x with
  | true =>
    rw [unpackSign_of_isNegative h]
    rfl
  | false =>
    have hlt : x.toBits.toNat < 2 ^ 63 := Nat.lt_of_not_le (of_decide_eq_false h)
    rw [Nat.div_eq_of_lt hlt] at hsign
    rw [Sign.ofBitVec, if_pos (BitVec.eq_of_toNat_eq hsign)]
    rfl

theorem fractionField_lt (x : Float) : fractionField x < exponentWeight :=
  Nat.mod_lt _ (by decide)

/-- The double with these parts. -/
def ofParts (negative : Bool) (m : Nat) (e : Int) : UnpackedFloat :=
  if h : m = 0 then .zero (signOf negative)
  else .finite (signOf negative) m e (Nat.pos_of_ne_zero h)

theorem ofParts_of_pos (negative : Bool) {m : Nat} (h : 0 < m) (e : Int) :
    ofParts negative m e = .finite (signOf negative) m e h :=
  dif_neg (Nat.ne_of_gt h)

theorem toNat_append_one (m : BitVec 52) : (1#1 ++ m).toNat = exponentWeight + m.toNat := by
  rw [BitVec.toNat_append, ← Nat.shiftLeft_add_eq_or_of_lt m.isLt]
  rfl

/-- A double from its fields, unless they are those of infinity or not a number. -/
theorem unpack_of_fields {b : BitVec 64} {negative : Bool} {e m : Nat}
    (hs : Sign.ofBitVec (@unpackSign .binary64 b) = signOf negative)
    (he : (@unpackExponent .binary64 b).toNat = e)
    (hm : (@unpackMantissa .binary64 b).toNat = m) (h : e ≠ 2047) :
    unpack .binary64 b = ofParts negative (if e = 0 then m else exponentWeight + m)
      (if e = 0 then -1074 else (e : Int) - 1075) := by
  have hspecial : @unpackExponent .binary64 b ≠ -1#11 := by
    intro h0
    rw [h0] at he
    exact h he.symm
  unfold unpack
  dsimp only
  rw [hs, if_neg hspecial]
  by_cases hzero : @unpackExponent .binary64 b = 0#11
  · have h0 : e = 0 := by rw [← he, hzero]; rfl
    rw [if_pos hzero, if_pos h0, if_pos h0, ← hm, hzero]
    by_cases hm0 : @unpackMantissa .binary64 b = 0#52
    · rw [dif_pos hm0, hm0]
      rfl
    · rw [dif_neg hm0]
      exact (ofParts_of_pos _ _ _).symm
  · have h0 : e ≠ 0 := fun h0 => hzero (BitVec.eq_of_toNat_eq (he.trans h0))
    rw [if_neg hzero, if_neg h0, if_neg h0]
    refine (ofParts_of_pos negative _ _).symm.trans ?_
    rw [toNat_append_one, hm, he]
    rfl

/-- The parts of a finite double: the coefficient has fifty-three bits, and fewer only with the
lowest power. -/
structure Canonical (m : Nat) (e : Int) : Prop where
  coefficient_lt : m < 2 ^ 53
  min_le : -1074 ≤ e
  le_max : e ≤ 971
  normal : 2 ^ 52 ≤ m ∨ e = -1074

theorem exponentField_lt_of_isFinite {x : Float} (h : x.isFinite) : exponentField x < 2047 := by
  have hlt : exponentField x < 0x800 := Nat.mod_lt _ (by decide)
  by_contra hge
  have hfield : exponentField x = 2047 := by omega
  have hfinite : x.toModel.unpack.isFinite = true := h
  have he := toNat_unpackExponent x
  rw [hfield] at he
  have hspecial : @unpackExponent .binary64 x.toModel.toBits.toBitVec = -1#_ :=
    BitVec.eq_of_toNat_eq he
  unfold Float.Model.unpack Float.Model.UnpackedFloat.unpack at hfinite
  dsimp only at hfinite
  rw [if_pos hspecial] at hfinite
  split at hfinite <;> cases hfinite

theorem unpack_eq_ofParts {x : Float} (h : x.isFinite) :
    x.toModel.unpack = ofParts (isNegative x) (coefficient x) (power x) :=
  unpack_of_fields (ofBitVec_unpackSign x) (toNat_unpackExponent x) (toNat_unpackMantissa x)
    (Nat.ne_of_lt (exponentField_lt_of_isFinite h))

theorem canonical_parts {x : Float} (h : x.isFinite) : Canonical (coefficient x) (power x) := by
  have hfield := exponentField_lt_of_isFinite h
  have hfraction := fractionField_lt x
  have hweight : exponentWeight = 2 ^ 52 := rfl
  unfold coefficient power
  split
  · exact ⟨by omega, by omega, by omega, Or.inr rfl⟩
  · exact ⟨by omega, by omega, by omega, Or.inl (by omega)⟩

/-! ## Values -/

/-- The value of a sign, a coefficient and a power. -/
def partsValue (negative : Bool) (m : Nat) (e : Int) : ℚ :=
  if negative then -(m * 2 ^ e) else m * 2 ^ e

/-- The exact magnitude of a finite double. -/
def magnitude (x : Float) : ℚ := coefficient x * 2 ^ power x

/-- The exact value of a finite double. -/
def exact (x : Float) : ℚ := partsValue (isNegative x) (coefficient x) (power x)

@[simp] theorem partsValue_zero (negative : Bool) (e : Int) : partsValue negative 0 e = 0 := by
  cases negative <;> simp [partsValue]

section
variable {m n : Nat} {e f : Int} (hm : Canonical m e) (hn : Canonical n f)
include hm hn

/-- A finite double with a higher power is larger. -/
theorem magnitude_lt_of_power_lt (h : e < f) : (m : ℚ) * 2 ^ e < n * 2 ^ f := by
  have hf : f ≠ -1074 := by have := hm.min_le; omega
  have hn' : (2 : ℚ) ^ 52 ≤ n := by exact_mod_cast hn.normal.resolve_right hf
  have hm' : (m : ℚ) < 2 ^ 53 := by exact_mod_cast hm.coefficient_lt
  calc (m : ℚ) * 2 ^ e < 2 ^ 53 * 2 ^ e := mul_lt_mul_of_pos_right hm' (by positivity)
    _ = 2 ^ 52 * 2 ^ (e + 1) := by rw [zpow_add_one₀ two_ne_zero]; ring
    _ ≤ 2 ^ 52 * 2 ^ f :=
      mul_le_mul_of_nonneg_left (zpow_le_zpow_right₀ one_le_two (by omega)) (by positivity)
    _ ≤ n * 2 ^ f := mul_le_mul_of_nonneg_right hn' (by positivity)

theorem isLE_compare_iff :
    ((compare e f).then (compare m n)).isLE ↔ (m : ℚ) * 2 ^ e ≤ n * 2 ^ f := by
  rcases lt_trichotomy e f with h | rfl | h
  · rw [Int.compare_eq_lt.2 h]
    exact iff_of_true rfl (magnitude_lt_of_power_lt hm hn h).le
  · have hpos : (0 : ℚ) < 2 ^ e := by positivity
    rw [Int.compare_eq_eq.2 rfl, Ordering.eq_then, Nat.isLE_compare, mul_le_mul_iff_left₀ hpos,
      Nat.cast_le]
  · rw [Int.compare_eq_gt.2 h]
    exact iff_of_false Bool.false_ne_true (not_le.2 (magnitude_lt_of_power_lt hn hm h))

theorem le_ofParts_iff (s t : Bool) :
    ((ofParts s m e).compare (ofParts t n f)).any (·.isLE) = true ↔
      partsValue s m e ≤ partsValue t n f := by
  have hpos {k : Nat} (hk : 0 < k) (g : Int) : (0 : ℚ) < k * 2 ^ g := by positivity
  -- a zero is compared by the sign of the other side
  rcases Nat.eq_zero_or_pos m with rfl | hm0 <;> rcases Nat.eq_zero_or_pos n with rfl | hn0
  · rw [partsValue_zero, partsValue_zero]
    exact iff_of_true rfl le_rfl
  · have hn' := hpos hn0 f
    rw [partsValue_zero, ofParts_of_pos t hn0]
    cases t with
    | false => exact iff_of_true rfl hn'.le
    | true => exact iff_of_false Bool.false_ne_true (not_le.2 (neg_neg_of_pos hn'))
  · have hm' := hpos hm0 e
    rw [partsValue_zero, ofParts_of_pos s hm0]
    cases s with
    | false => exact iff_of_false Bool.false_ne_true (not_le.2 hm')
    | true => exact iff_of_true rfl (neg_nonpos_of_nonneg hm'.le)
  · have hm' := hpos hm0 e
    have hn' := hpos hn0 f
    rw [ofParts_of_pos s hm0, ofParts_of_pos t hn0]
    cases s <;> cases t
    · exact isLE_compare_iff hm hn
    · exact iff_of_false Bool.false_ne_true (not_le.2 ((neg_neg_of_pos hn').trans hm'))
    · exact iff_of_true rfl ((neg_neg_of_pos hm').trans hn').le
    · have hswap : ((compare e f).then (compare m n)).swap = (compare f e).then (compare n m) := by
        rw [Ordering.swap_then, ← Std.OrientedCmp.eq_swap, ← Std.OrientedCmp.eq_swap]
      show ((compare e f).then (compare m n)).swap.isLE = true ↔ -(m * 2 ^ e : ℚ) ≤ -(n * 2 ^ f)
      rw [hswap, neg_le_neg_iff]
      exact isLE_compare_iff hn hm

end

/-- The order of finite doubles is that of their values. -/
theorem le_iff_exact_le {x y : Float} (hx : x.isFinite) (hy : y.isFinite) :
    x ≤ y ↔ exact x ≤ exact y := by
  rw [le_iff_compare, unpack_eq_ofParts hx, unpack_eq_ofParts hy]
  exact le_ofParts_iff (canonical_parts hx) (canonical_parts hy) _ _

/-! ## Negation -/

theorem unpackSign_packComponents (s : Sign) (e : BitVec 11) (m : BitVec 52) :
    unpackSign (packComponents .binary64 s e m) = s.toBitVec := by
  show (s.toBitVec ++ e ++ m).extractLsb' 63 1 = s.toBitVec
  rw [BitVec.extractLsb'_append_eq_of_le (by decide), BitVec.extractLsb'_append_eq_of_le (by decide)]
  exact BitVec.extractLsb'_eq_self

theorem pack_ofParts {m : Nat} {e : Int} (hm : Canonical m e) (s : Bool) :
    pack .binary64 (ofParts s m e) = packComponents .binary64 (signOf s)
      (BitVec.ofNat 11 (if m < exponentWeight then 0 else (e + 1075).toNat))
      (BitVec.ofNat 52 m) := by
  obtain ⟨hlt, hmin, hmax, hnormal⟩ := hm
  have hweight : exponentWeight = 2 ^ 52 := rfl
  rcases Nat.eq_zero_or_pos m with rfl | hm0
  · rfl
  · have hfits : ¬ 2 ^ 11 ≤ (e + 1023 + 52).toNat + 1 := by omega
    rw [ofParts_of_pos s hm0]
    show (if 2 ^ 11 ≤ (e + 1023 + 52).toNat + 1 then _
      else if m.log2 + 1 = 53 then _ else _) = _
    rw [if_neg hfits]
    by_cases hm52 : m < exponentWeight
    · have hlog : m.log2 < 52 := (Nat.log2_lt hm0.ne').2 (hweight ▸ hm52)
      rw [if_neg (by omega), if_pos hm52]
    · have hlog : m.log2 = 52 := (Nat.log2_eq_iff hm0.ne').2 ⟨by omega, hlt⟩
      rw [if_pos (by rw [hlog]), if_neg hm52, add_assoc]
      rfl

theorem unpack_packComponents (s : Bool) {e : Nat} (he : e < 2047) (m : Nat) :
    unpack .binary64 (packComponents .binary64 (signOf s) (BitVec.ofNat 11 e) (BitVec.ofNat 52 m)) =
      ofParts s (if e = 0 then m % 2 ^ 52 else exponentWeight + m % 2 ^ 52)
        (if e = 0 then -1074 else (e : Int) - 1075) := by
  refine unpack_of_fields ?_ ?_ ?_ (Nat.ne_of_lt he)
  · rw [unpackSign_packComponents]
    cases s <;> rfl
  · have hlt : e < 2 ^ 11 := by omega
    rw [UnpackedFloat.unpackExponent_packComponents, BitVec.toNat_ofNat]
    exact Nat.mod_eq_of_lt hlt
  · rw [UnpackedFloat.unpackMantissa_packComponents, BitVec.toNat_ofNat]

/-- Packing the parts of a finite double loses nothing. -/
theorem unpack_pack_ofParts {m : Nat} {e : Int} (hm : Canonical m e) (s : Bool) :
    unpack .binary64 (pack .binary64 (ofParts s m e)) = ofParts s m e := by
  have hweight : exponentWeight = 2 ^ 52 := rfl
  obtain ⟨hlt, hmin, hmax, hnormal⟩ := id hm
  rw [pack_ofParts hm]
  by_cases hm52 : m < exponentWeight
  · have he : e = -1074 := hnormal.resolve_left (by omega)
    rw [if_pos hm52, unpack_packComponents s (by decide), if_pos rfl, if_pos rfl,
      Nat.mod_eq_of_lt (hweight ▸ hm52), he]
  · have he : (e + 1075).toNat ≠ 0 := by omega
    rw [if_neg hm52, unpack_packComponents s (by omega), if_neg he, if_neg he]
    congr 1
    · omega
    · omega

theorem neg_ofParts (s : Bool) (m : Nat) (e : Int) : (ofParts s m e).neg = ofParts (!s) m e := by
  rcases Nat.eq_zero_or_pos m with rfl | hm0
  · cases s <;> rfl
  · rw [ofParts_of_pos s hm0, ofParts_of_pos (!s) hm0]
    cases s <;> rfl

theorem unpack_neg {x : Float} (h : x.isFinite) :
    (-x).toModel.unpack = ofParts (!isNegative x) (coefficient x) (power x) := by
  show unpack .binary64 (pack .binary64 x.toModel.unpack.neg) = _
  rw [unpack_eq_ofParts h, neg_ofParts, unpack_pack_ofParts (canonical_parts h)]

theorem isFinite_ofParts (s : Bool) (m : Nat) (e : Int) : (ofParts s m e).isFinite := by
  rcases Nat.eq_zero_or_pos m with rfl | hm0
  · rfl
  · rw [ofParts_of_pos s hm0]
    rfl

theorem isFinite_neg {x : Float} (h : x.isFinite) : (-x).isFinite := by
  show (-x).toModel.unpack.isFinite = true
  rw [unpack_neg h]
  exact isFinite_ofParts _ _ _

/-- The value of a double, finite or not. -/
def unpackedValue : UnpackedFloat → ℚ
  | .finite s m e _ => partsValue (s == .negative) m e
  | _ => 0

theorem unpackedValue_ofParts (s : Bool) (m : Nat) (e : Int) :
    unpackedValue (ofParts s m e) = partsValue s m e := by
  rcases Nat.eq_zero_or_pos m with rfl | hm0
  · rw [partsValue_zero]
    rfl
  · rw [ofParts_of_pos s hm0]
    cases s <;> rfl

theorem exact_neg {x : Float} (h : x.isFinite) : exact (-x) = -exact x := by
  have hx := congrArg unpackedValue (unpack_eq_ofParts (isFinite_neg h))
  rw [unpack_neg h, unpackedValue_ofParts, unpackedValue_ofParts] at hx
  rw [exact, exact, ← hx]
  cases isNegative x <;> simp [partsValue]

end SurveyTables.Binary64
