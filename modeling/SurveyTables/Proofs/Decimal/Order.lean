import Mathlib.Order.Compare
import SurveyTables.Proofs.Value.Number

/-!
# The order of doubles

* `compare_swap` : two doubles compare the other way round when they are exchanged;
* `lt_iff_compare` and `not_lt_of_le` : so none is both below another and above or equal to it;
* `le_of_not_lt` : and of two that are numbers, one is at most the other;
* `compare_left_congr`, `compare_right_congr` : two that are equal compare alike with any other;
* `isNegative_of_nonneg` : no double from zero on has a set sign bit, zero itself apart.
-/

namespace SurveyTables

open Float.Model (UnpackedFloat)
open Float.Model.UnpackedFloat (Sign unpackSign)

theorem compare_swap (x y : UnpackedFloat) : y.compare x = (x.compare y).map Ordering.swap := by
  have hfinite : ∀ (m₁ m₂ : Nat) (e₁ e₂ : Int),
      (compare e₂ e₁).then (compare m₂ m₁) = ((compare e₁ e₂).then (compare m₁ m₂)).swap := by
    intro m₁ m₂ e₁ e₂
    rw [Ordering.swap_then, ← Std.OrientedCmp.eq_swap, ← Std.OrientedCmp.eq_swap]
  -- only finite doubles of the same sign are compared by their parts
  rcases x with (_ | _) | _ | _ | ⟨_ | _, m₁, e₁, h₁⟩ <;>
    rcases y with (_ | _) | _ | _ | ⟨_ | _, m₂, e₂, h₂⟩ <;> try rfl
  · exact congrArg (fun o => some o.swap) (hfinite m₁ m₂ e₁ e₂)
  · exact congrArg some (hfinite m₁ m₂ e₁ e₂)

theorem lt_iff_compare (x y : Float) :
    x < y ↔ x.toModel.unpack.compare y.toModel.unpack = some .lt := by
  show decide (x.toModel < y.toModel) = true ↔ _
  rw [decide_eq_true_iff]
  exact beq_iff_eq

theorem not_lt_of_le {x y : Float} (h : x ≤ y) : ¬ y < x := by
  rw [le_iff_compare] at h
  rw [lt_iff_compare, compare_swap x.toModel.unpack]
  cases hc : x.toModel.unpack.compare y.toModel.unpack with
  | none =>
    rw [hc] at h
    cases h
  | some o =>
    rw [hc] at h
    cases o with
    | lt => decide
    | eq => decide
    | gt => cases h

theorem isSome_compare {x y : UnpackedFloat} (hx : x.isNaN = false) (hy : y.isNaN = false) :
    (x.compare y).isSome := by
  rcases x with (_ | _) | _ | _ | ⟨_ | _, _, _, _⟩ <;>
    rcases y with (_ | _) | _ | _ | ⟨_ | _, _, _, _⟩ <;>
    first | rfl | exact absurd hx (by decide) | exact absurd hy (by decide)

/-- Of two numbers, one is at most the other. -/
theorem le_of_not_lt {x y : Float} (hx : x.isNaN = false) (hy : y.isNaN = false) (h : ¬ y < x) :
    x ≤ y := by
  obtain ⟨o, ho⟩ := Option.isSome_iff_exists.1
    (isSome_compare (x := x.toModel.unpack) (y := y.toModel.unpack) hx hy)
  rw [lt_iff_compare, compare_swap x.toModel.unpack, ho] at h
  rw [le_iff_compare, ho]
  cases o with
  | lt => rfl
  | eq => rfl
  | gt => exact absurd rfl h

/-- Doubles that are equal are the same, zeros of either sign apart. -/
theorem eq_or_zero_of_compare {u v : UnpackedFloat} (h : u.compare v = some .eq) :
    u = v ∨ ∃ s t, u = .zero s ∧ v = .zero t := by
  have hparts : ∀ {m₁ m₂ : Nat} {e₁ e₂ : Int},
      (compare e₁ e₂).then (compare m₁ m₂) = .eq → e₁ = e₂ ∧ m₁ = m₂ := by
    intro m₁ m₂ e₁ e₂ h
    rw [Ordering.then_eq_eq] at h
    exact ⟨Std.LawfulEqCmp.eq_of_compare h.1, Std.LawfulEqCmp.eq_of_compare h.2⟩
  rcases u with (_ | _) | _ | s | ⟨_ | _, m₁, e₁, h₁⟩ <;>
    rcases v with (_ | _) | _ | t | ⟨_ | _, m₂, e₂, h₂⟩ <;> try cases h
  · exact Or.inl rfl
  · exact Or.inl rfl
  · exact Or.inr ⟨s, t, rfl, rfl⟩
  · obtain ⟨rfl, rfl⟩ := hparts (Ordering.swap_inj.1 (Option.some.inj h))
    exact Or.inl rfl
  · obtain ⟨rfl, rfl⟩ := hparts (Option.some.inj h)
    exact Or.inl rfl

theorem compare_congr {u v : UnpackedFloat} (h : u.compare v = some .eq) (w : UnpackedFloat) :
    w.compare u = w.compare v := by
  rcases eq_or_zero_of_compare h with rfl | ⟨s, t, rfl, rfl⟩
  · rfl
  · rcases w with (_ | _) | _ | _ | ⟨_ | _, _, _, _⟩ <;> rfl

theorem beq_iff_compare (x y : Float) :
    x == y ↔ x.toModel.unpack.compare y.toModel.unpack = some .eq := by
  show (x.toModel.unpack.compare y.toModel.unpack == some .eq) = true ↔ _
  exact beq_iff_eq

section
variable {x y : Float} (h : x == y) (z : Float)
include h

theorem compare_right_congr :
    z.toModel.unpack.compare x.toModel.unpack = z.toModel.unpack.compare y.toModel.unpack :=
  compare_congr ((beq_iff_compare x y).1 h) _

theorem compare_left_congr :
    x.toModel.unpack.compare z.toModel.unpack = y.toModel.unpack.compare z.toModel.unpack := by
  rw [compare_swap z.toModel.unpack, compare_swap z.toModel.unpack, compare_right_congr h]

end

/-! ## The sign bit -/

/-- The sign of a double; not a number has none. -/
def sign? : UnpackedFloat → Option Sign
  | .infinity s => some s
  | .notANumber => none
  | .zero s => some s
  | .finite s _ _ _ => some s

theorem unpackSign_of_isNegative {x : Float} (h : Binary64.isNegative x) :
    @unpackSign .binary64 x.toModel.toBits.toBitVec = 1#1 := by
  have hbits : 2 ^ 63 ≤ x.toBits.toNat := of_decide_eq_true h
  have hlt := x.toBits.toNat_lt
  apply BitVec.eq_of_toNat_eq
  show x.toBits.toNat >>> 63 % 2 ^ 1 = 1
  rw [Nat.shiftRight_eq_div_pow]
  omega

theorem sign?_dite_ne {p : Prop} [Decidable p] {s : Sign} {u : p → UnpackedFloat}
    {v : ¬ p → UnpackedFloat} (hu : ∀ h, sign? (u h) ≠ some s) (hv : ∀ h, sign? (v h) ≠ some s) :
    sign? (dite p u v) ≠ some s := by
  by_cases h : p
  · rw [dif_pos h]
    exact hu h
  · rw [dif_neg h]
    exact hv h

theorem sign?_unpack_ne {x : Float} (h : Binary64.isNegative x) :
    sign? x.toModel.unpack ≠ some .positive := by
  have hne : some (Sign.ofBitVec (@unpackSign .binary64 x.toModel.toBits.toBitVec)) ≠
      some .positive := by
    rw [unpackSign_of_isNegative h]
    exact fun hs => Sign.noConfusion (Option.some.inj hs)
  have hnone : none ≠ some Sign.positive := (Option.some_ne_none _).symm
  -- infinity or not a number, zero or subnormal, normal
  refine sign?_dite_ne (fun _ => sign?_dite_ne (fun _ => ?_) fun _ => ?_) fun _ =>
    sign?_dite_ne (fun _ => sign?_dite_ne (fun _ => ?_) fun _ => ?_) fun _ => ?_
  · exact hne
  · exact hnone
  · exact hne
  · exact hne
  · exact hne

theorem isNegative_of_nonneg {x : Float} (h : 0 ≤ x) (h0 : (x == 0) = false) :
    Binary64.isNegative x = false := by
  have hzero : (0 : Float).toModel.unpack = .zero .positive := rfl
  rw [Bool.eq_false_iff]
  intro hneg
  have hsign := sign?_unpack_ne hneg
  change (x.toModel.unpack.compare (0 : Float).toModel.unpack == some .eq) = false at h0
  rw [le_iff_compare] at h
  rw [hzero] at h h0
  generalize x.toModel.unpack = u at h h0 hsign
  match u with
  | .notANumber => cases h
  | .zero _ => cases h0
  | .infinity .negative => cases h
  | .infinity .positive => exact hsign rfl
  | .finite .negative _ _ _ => cases h
  | .finite .positive _ _ _ => exact hsign rfl

end SurveyTables
