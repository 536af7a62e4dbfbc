import SurveyTables.Proofs.Decimal.Characters
import SurveyTables.Proofs.Decimal.Nearest
import SurveyTables.Proofs.Decimal.Numeral
import SurveyTables.Proofs.Decimal.Rounding

/-!
# Numbers as they are displayed

* `number?` : the number that a text denotes, exactly; `number?_text` for a numeral;
* `exists_numeral` : a number of units of the last place, written with its point, is a numeral that
  denotes it;
* `exists_fixed_eq` : one or two places of a finite double are those of its exact magnitude, with
  its sign unless they are all zero;
* `Displays` and `fixed_nearest` : the displayed number is the nearest one, a midpoint going away
  from zero. So it changes its sign with the double and does not fall where the double rises.
-/

namespace SurveyTables

open Text

/-! ## Numerals -/

namespace Numeral

/-- A numeral with so many places and no zero in front that could be left out. -/
structure HasPlaces (n : Numeral) (places : Nat) : Prop where
  length : n.places.length = places
  leading : n.whole.chars.head? = some '0' → n.whole.chars.length = 1

/-- The number that the numeral denotes, exactly. -/
def number (n : Numeral) : ℚ :=
  let d := Decimal.ofDigits n.whole.chars n.places 0
  if n.negative then -d.value else d.value

end Numeral

namespace Decimal

/-- The number that a text denotes, exactly. -/
def number? : List Char → Option ℚ
  | '-' :: s => (read? s).map fun d => -d.value
  | s => (read? s).map value

theorem number?_text (n : Numeral) : number? n.text = some n.number := by
  rw [Numeral.text_eq, Numeral.sign, Numeral.number]
  split
  · show (read? n.unsigned).map _ = _
    rw [n.read?_unsigned, Option.map_some]
  · obtain ⟨d, t, hn, hd⟩ := n.exists_unsigned
    have hunsigned : number? n.unsigned = (read? n.unsigned).map value := by
      rw [hn]
      unfold number?
      split
      · rename_i h
        exact absurd ((List.cons.inj h).1 ▸ hd) (by decide)
      · rfl
    rw [List.nil_append, hunsigned, n.read?_unsigned, Option.map_some]

/-! ## Units of the last place -/

section
variable (units places : Nat)

theorem length_padded :
    (padded units places).length = max (places + 1) (Nat.toDigits 10 units).length := by
  rw [padded, List.length_append, List.length_replicate]
  omega

theorem ofDigitChars_padded : Nat.ofDigitChars 10 (padded units places) 0 = units := by
  rw [padded, Nat.ofDigitChars_append, Nat.ofDigitChars_replicate_zero, Nat.mul_zero,
    Nat.ofDigitChars_ten_toDigits]

/-- A zero in front is the digit before the point. -/
theorem length_padded_of_zero (h : (padded units places).head? = some '0') :
    (padded units places).length = places + 1 := by
  rw [length_padded]
  rcases Nat.lt_or_ge (places + 1) (Nat.toDigits 10 units).length with hlong | hshort
  · rw [padded, Nat.sub_eq_zero_of_le hlong.le, List.replicate_zero, List.nil_append] at h
    rcases Nat.eq_zero_or_pos units with rfl | hunits
    · exact absurd hlong (Nat.not_lt.2 (Nat.le_add_left 1 places))
    · exact absurd h (head?_toDigits_ne hunits)
  · omega

end

/-- A number of units written with its point. -/
theorem exists_numeral (negative : Bool) (units : Nat) {places : Nat} (hp : 0 < places) :
    ∃ n : Numeral, n.text = (if negative then ['-'] else []) ++ insertPoint units places ∧
      n.HasPlaces places ∧
      n.number = if negative then -(units / 10 ^ places : ℚ) else units / 10 ^ places := by
  have hlength := length_padded units places
  set k := (padded units places).length - places with hk
  have hinsert : insertPoint units places =
      (padded units places).take k ++ '.' :: (padded units places).drop k := if_neg hp.ne'
  have hplaces : ((padded units places).drop k).length = places := by
    rw [List.length_drop]
    omega
  have hwhole : ((padded units places).take k).length = k := by
    rw [List.length_take]
    omega
  refine ⟨⟨negative,
    ⟨(padded units places).take k, List.length_pos_iff.1 (by omega),
      fun c hc => isDigit_of_mem_padded (List.mem_of_mem_take hc)⟩,
    some ⟨(padded units places).drop k, List.length_pos_iff.1 (by omega),
      fun c hc => isDigit_of_mem_padded (List.mem_of_mem_drop hc)⟩⟩, ?_, ⟨hplaces, ?_⟩, ?_⟩
  · rw [hinsert, ← List.append_assoc]
    rfl
  · intro hzero
    rw [List.head?_take, if_neg (by omega)] at hzero
    have hfull := length_padded_of_zero units places hzero
    exact hwhole.trans (by omega)
  · have hvalue : (ofDigits ((padded units places).take k) ((padded units places).drop k) 0).value =
        units / 10 ^ places := by
      rw [ofDigits, value, List.take_append_drop, ofDigitChars_padded, hplaces, zero_sub, zpow_neg,
        zpow_natCast, div_eq_mul_inv]
    rw [← hvalue]
    rfl

/-! ## Fixed places -/

open Binary64 (magnitude exact isNegative)

/-- One or two places of a finite double. -/
theorem exists_fixed_eq {x : Float} (hx : x.isFinite) {places : Nat} (hp : places ≤ 2) :
    ∃ negative : Bool, (⌊magnitude x * 10 ^ places + 1 / 2⌋₊ ≠ 0 → negative = isNegative x) ∧
      fixed x places = (if negative then ['-'] else []) ++
        insertPoint ⌊magnitude x * 10 ^ places + 1 / 2⌋₊ places := by
  have hnan : ¬ x.isNaN := Bool.eq_false_iff.1 (isNaN_of_isFinite hx)
  have hinf : ¬ (!x.isFinite) := by rw [hx]; decide
  rw [fixed, if_neg hnan, if_neg hinf]
  cases h : store? x with
  | none =>
    rw [← value_ofFloat, ← roundAt_eq_floor]
    exact ⟨isNegative x, fun _ => rfl, rfl⟩
  | some d =>
    rw [← roundAt_of_stands hx (stands_of_store? hx h) hp]
    -- the sign is lost only where the rounding has left nothing
    by_cases hzero : d.roundAt places = 0 ∧ d.coefficient ≠ 0
    · exact ⟨false, fun hne => absurd hzero.1 hne, if_pos hzero⟩
    · exact ⟨isNegative x, fun _ => rfl, if_neg hzero⟩

/-- The text of a double with so many places is a numeral for this number, which is the one nearest
to the exact value of the double. -/
structure Displays (places : Nat) (v : Float) (q : ℚ) : Prop where
  form : ∃ n : Numeral, fixed v places = n.text ∧ n.HasPlaces places
  denotes : number? (fixed v places) = some q
  nearest : NearestMultiple places (exact v) q

theorem exists_displays {v : Float} (hv : v.isFinite) {places : Nat}
    (hp : places = 1 ∨ places = 2) : ∃ q, Displays places v q := by
  obtain ⟨negative, hsign, hfixed⟩ := exists_fixed_eq hv (show places ≤ 2 by omega)
  obtain ⟨n, htext, hplaces, hnumber⟩ := exists_numeral negative
    ⌊magnitude v * 10 ^ places + 1 / 2⌋₊ (show 0 < places by omega)
  have hnearest := nearestMultiple_floor places (Binary64.magnitude_nonneg v)
  rw [← htext] at hfixed
  refine ⟨n.number, ⟨n, hfixed, hplaces⟩, hfixed ▸ number?_text n, ?_⟩
  have hexact : exact v = if isNegative v then -magnitude v else magnitude v := rfl
  rw [hexact, hnumber]
  by_cases hzero : ⌊magnitude v * 10 ^ places + 1 / 2⌋₊ = 0
  · -- zero is its own negative, so its sign need not be that of the double
    rw [hzero, Nat.cast_zero, zero_div] at hnearest
    rw [hzero, Nat.cast_zero, zero_div, neg_zero, ite_self]
    cases isNegative v with
    | true => exact neg_zero (G := ℚ) ▸ hnearest.neg
    | false => exact hnearest
  · rw [hsign hzero]
    cases isNegative v with
    | true => exact hnearest.neg
    | false => exact hnearest

/-- With one or two places, every finite double is displayed as the nearest number that has so many
places, a midpoint going away from zero. The negated double shows the negated number, and a double
that is not below another one shows no smaller number. -/
theorem fixed_nearest {v : Float} (hv : v.isFinite) {places : Nat}
    (hp : places = 1 ∨ places = 2) :
    ∃ q, Displays places v q ∧ Displays places (-v) (-q) ∧
      ∀ w : Float, w.isFinite → v ≤ w → ∃ r, Displays places w r ∧ q ≤ r := by
  obtain ⟨q, hq⟩ := exists_displays hv hp
  refine ⟨q, hq, ?_, fun w hw hvw => ?_⟩
  · obtain ⟨r, hr⟩ := exists_displays (Binary64.isFinite_neg hv) hp
    have hneg := hq.nearest.neg
    rw [← Binary64.exact_neg hv] at hneg
    rwa [hneg.unique hr.nearest]
  · obtain ⟨r, hr⟩ := exists_displays hw hp
    exact ⟨r, hr, hq.nearest.le hr.nearest ((Binary64.le_iff_exact_le hv hw).1 hvw)⟩

/-- An eighth below zero is a midpoint of two places. -/
theorem fixed_nearest_eighth :
    Float.isFinite (-0.125) ∧ fixed (-0.125) 2 = "-0.13".toList ∧
      Displays 2 (-0.125) (-13 / 100) ∧ Displays 2 (-(-0.125)) (13 / 100) ∧
      ∃ r, Displays 2 0.005 r ∧ -13 / 100 ≤ r := by
  have hfinite : Float.isFinite (-0.125) := by decide
  have htext : fixed (-0.125) 2 = "-0.13".toList := by decide +kernel
  obtain ⟨q, hq, hneg, hle⟩ := fixed_nearest hfinite (Or.inr rfl)
  have hvalue : some q = some (-(Decimal.mk 13 (-2)).value) := by
    rw [← hq.denotes, htext]
    rfl
  obtain rfl : q = -13 / 100 := by
    rw [Option.some.inj hvalue, value]
    norm_num
  rw [show -(-13 / 100 : ℚ) = 13 / 100 by norm_num] at hneg
  exact ⟨hfinite, htext, hq, hneg, hle 0.005 (by decide) (by decide)⟩

end Decimal

end SurveyTables
