import Mathlib
import SurveyTables.Proofs.Equation.Connectives
import SurveyTables.Proofs.Equation.Order
import SurveyTables.Proofs.Equation.Tree

/-!
# The answers that an equation depends on

* `Value.Same` : the same answer, where numbers are compared as numbers; no condition tells such
  answers apart (`Condition.admits_eq_of_same`);
* `Record.response?_eq_none_iff` : what counts as no answer;
* `Equation.mem_conditions_conjoin`, `Equation.mem_conditions_disjoin` : the conditions of an
  equation are those of its pieces (`Equation.mem_conditions_ofGroups`);
* `Equation.ne_nil_of_mem_groups` : every group has a piece, so that no group holds for want of
  pieces;
* `Equation.holds_by_answers` : an equation holds of nobody who answers none of its variables, and
  its verdict depends on their answers alone.
-/

namespace SurveyTables

/-! ## The same answers -/

/-- The same answer. Zero is the same with either sign. -/
inductive Value.Same : Value → Value → Prop
  | refl (v : Value) : Same v v
  | number {x y : Float} (h : x == y) : Same (.number x) (.number y)

theorem numberText_of_beq {x y : Float} (h : x == y) : numberText x = numberText y := by
  obtain ⟨-, -, rfl | ⟨rfl, rfl⟩ | ⟨rfl, rfl⟩⟩ := Float.beq_iff_ne_nan_and_eq.1 h
  · rfl
  · decide +kernel
  · decide +kernel

theorem isNaN_of_beq {x y : Float} (h : x == y) : x.isNaN = false ∧ y.isNaN = false := by
  obtain ⟨hx, hy, -⟩ := Float.beq_iff_ne_nan_and_eq.1 h
  simp [hx, hy]

/-- A condition does not tell apart answers that are the same. -/
theorem Condition.admits_eq_of_same {v w : Value} (h : v.Same w) (c : Condition) :
    c.admits v = c.admits w := by
  cases h with
  | refl => rfl
  | @number x y h =>
    obtain ⟨hx, hy⟩ := isNaN_of_beq h
    have htext : (Value.number x).display = (Value.number y).display := numberText_of_beq h
    have hxn : (Value.number x).number? = some x := by simp only [Value.number?, hx]; rfl
    have hyn : (Value.number y).number? = some y := by simp only [Value.number?, hy]; rfl
    obtain ⟨code, op, operand⟩ := c
    cases operand with
    | range min max =>
      have hmin : decide (min ≤ x) = decide (min ≤ y) :=
        Operator.compare_of_beq h .greaterEqual min
      have hmax : decide (x ≤ max) = decide (y ≤ max) := Operator.compare_of_beq h .lessEqual max
      simp only [admits, hxn, hyn, Option.any_some, hmin, hmax]
    | list items => simp only [admits, htext]
    | scalar raw =>
      simp only [admits, scalarHolds, hxn, hyn, htext]
      cases numberOfText? raw with
      | none => rfl
      | some z => exact Operator.compare_of_beq h op z

theorem Condition.holds_eq_of_same {c : Condition} {r s : Record}
    (h : Option.Rel Value.Same (r.response? c.code) (s.response? c.code)) :
    c.holds r = c.holds s := by
  rw [holds, holds]
  generalize r.response? c.code = v at h
  generalize s.response? c.code = w at h
  cases h with
  | some h => exact c.admits_eq_of_same h
  | none => rfl

theorem Record.response?_eq_none_iff {r : Record} {code : String} :
    r.response? code = none ↔
      r.get? code = none ∨ r.get? code = some .empty ∨ r.get? code = some (.text "") := by
  unfold response?
  cases r.get? code with
  | none => simp
  | some v => cases v <;> simp [Value.isMissing]

namespace Equation

open Text

/-! ## The conditions of an equation -/

theorem mem_conditions_conjoin {es : List Expression} {c : Condition} :
    c ∈ (conjoin es).conditions ↔ ∃ e ∈ es, c ∈ e.conditions := by
  unfold conjoin
  split
  · simp
  · exact Expression.mem_conditions_and

theorem mem_conditions_disjoin {es : List Expression} {c : Condition} :
    c ∈ (disjoin es).conditions ↔ ∃ e ∈ es, c ∈ e.conditions := by
  unfold disjoin
  split
  · simp
  · exact Expression.mem_conditions_or

theorem mem_conditions_ofGroups {gs : List (List (List Char))} {c : Condition} :
    c ∈ (ofGroups gs).conditions ↔ ∃ g ∈ gs, ∃ p ∈ g, c ∈ (ofPiece p).conditions := by
  simp [ofGroups, mem_conditions_disjoin, mem_conditions_conjoin]

theorem holds_ofPiece {piece : List Char} {r : Record}
    (h : ∀ c ∈ (ofPiece piece).conditions, c.holds r = false) : (ofPiece piece).holds r = false := by
  unfold ofPiece at h ⊢
  split
  · rename_i c hc
    rw [hc] at h
    exact h c (List.mem_singleton_self c)
  · rfl

theorem ne_nil_of_mem_groups {s : List Char} {g : List (List Char)} (h : g ∈ groups s) : g ≠ [] := by
  obtain ⟨t, -, rfl⟩ := List.mem_map.1 h
  exact Connective.split_ne_nil _ _

theorem isAll_ofGroups (gs : List (List (List Char))) : (ofGroups gs).isAll = false := by
  cases hall : ofGroups gs with
  | all =>
    -- then the only group would be the expression of every record, and so would its only piece
    have hgroups := disjuncts_ofGroups gs
    rw [hall] at hgroups
    obtain ⟨g, -, hg⟩ := List.map_eq_singleton_iff.1 hgroups.symm
    have hpieces := conjuncts_conjoin_map g
    rw [hg] at hpieces
    obtain ⟨p, -, hp⟩ := List.map_eq_singleton_iff.1 hpieces.symm
    unfold ofPiece at hp
    split at hp <;> cases hp
  | _ => rfl

theorem isAll_parse (s : String) : (parse s).isAll = isMatchAll s.toList := by
  unfold parse
  split
  · rename_i h
    exact h.symm
  · rename_i h
    rw [isAll_ofGroups, Bool.eq_false_iff.2 h]

/-! ## The verdict -/

theorem holds_of_unanswered {s : String} (hm : isMatchAll s.toList = false) {r : Record}
    (h : ∀ c ∈ (parse s).conditions, r.response? c.code = none) : holds s r = false := by
  rw [parse_of_isMatchAll hm] at h
  rw [holds_of_isMatchAll hm, Bool.eq_false_iff, Ne, List.any_eq_true]
  rintro ⟨g, hg, hall⟩
  obtain ⟨p, hp⟩ := List.exists_mem_of_ne_nil g (ne_nil_of_mem_groups hg)
  have hpiece : (ofPiece p).holds r = false := by
    refine holds_ofPiece fun c hc => ?_
    rw [Condition.holds, h c (mem_conditions_ofGroups.2 ⟨g, hg, p, hp, hc⟩)]
    rfl
  rw [List.all_eq_true.1 hall p hp] at hpiece
  cases hpiece

/-- An equation means every record only if it says so. Any other holds of no record without an
answer to one of its variables, whatever its operators and whatever in it cannot be read; and two
records with the same answers to its variables both satisfy it or neither does. -/
theorem holds_by_answers (s : String) :
    (parse s).isAll = isMatchAll s.toList ∧
      (isMatchAll s.toList = false → ∀ r : Record,
        (∀ c ∈ (parse s).conditions, r.get? c.code = none ∨ r.get? c.code = some .empty ∨
          r.get? c.code = some (.text "")) → holds s r = false) ∧
      ∀ r t : Record, (∀ c ∈ (parse s).conditions,
        Option.Rel Value.Same (r.response? c.code) (t.response? c.code)) →
          holds s r = holds s t := by
  refine ⟨isAll_parse s, fun hm r h => ?_, fun r t h => ?_⟩
  · exact holds_of_unanswered hm fun c hc => Record.response?_eq_none_iff.2 (h c hc)
  · exact Expression.holds_congr fun c hc => Condition.holds_eq_of_same (h c hc)

/-- A clause, a comparison by `!=` and a text that is no condition, for a record with empty answers;
and two records with zeros of either sign that differ in a variable which is not asked for. -/
theorem holds_by_answers_unread :
    let s := "AGE BETWEEN 1 AND 9 OR S1!=2 | what & S1!=3"
    let r := Record.ofList [("AGE", .empty), ("S1", .text ""), ("Q1", .number 5)]
    let t := Record.ofList [("S1", .number 0), ("Q1", .text "1")]
    let u := Record.ofList [("S1", .number (-0)), ("Q1", .text "2")]
    isMatchAll s.toList = false ∧
      (parse s).conditions.map Condition.code = ["AGE", "AGE", "S1", "S1"] ∧
      holds s r = false ∧ holds s t = holds s u ∧ holds s u = true := by
  intro s r t u
  have hm : isMatchAll s.toList = false := by decide +kernel
  have hcodes : (parse s).conditions.map Condition.code = ["AGE", "AGE", "S1", "S1"] := by
    decide +kernel
  have hcases : ∀ c ∈ (parse s).conditions, c.code = "AGE" ∨ c.code = "S1" := by
    intro c hc
    have hmem := List.mem_map_of_mem (f := Condition.code) hc
    rw [hcodes] at hmem
    simpa using hmem
  refine ⟨hm, hcodes, (holds_by_answers s).2.1 hm r fun c hc => ?_,
    (holds_by_answers s).2.2 t u fun c hc => ?_, by decide +kernel⟩
  · rcases hcases c hc with h | h
    · exact Or.inr (Or.inl (by rw [h]; decide +kernel))
    · exact Or.inr (Or.inr (by rw [h]; decide +kernel))
  · rcases hcases c hc with h | h
    · have ht : t.response? "AGE" = none := by decide +kernel
      have hu : u.response? "AGE" = none := by decide +kernel
      rw [h, ht, hu]
      exact .none
    · have ht : t.response? "S1" = some (.number 0) := by decide +kernel
      have hu : u.response? "S1" = some (.number (-0)) := by decide +kernel
      rw [h, ht, hu]
      exact .some (.number (by decide +kernel))

end Equation

end SurveyTables
