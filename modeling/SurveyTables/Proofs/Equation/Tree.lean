import Mathlib.Data.List.Forall2
import SurveyTables.Equation.Expression

/-!
# Expressions by their parts

* `Expression.induction` : what holds of an expression if it holds of the parts of a conjunction or
  a disjunction whenever it holds of each of them;
* `mem_conditions_and`, `holds_and`, `mapConditions_and` and so on : conditions, verdict and
  replaced conditions of a conjunction and a disjunction in terms of their parts;
* `mapConditions_eq_self`, `mapConditions_mapConditions` : replacing conditions by themselves, and
  replacing them twice;
* `Expression.Matched` : two expressions of one shape whose conditions are related pair by pair;
* `holds_mapConditions` : an expression goes on holding if each of its conditions does;
  `holds_congr` : so its verdict depends on theirs alone.
-/

namespace SurveyTables.Expression

@[elab_as_elim, induction_eliminator]
theorem induction {motive : Expression → Prop} (all : motive .all)
    (condition : ∀ c, motive (.condition c)) (unparsed : ∀ s, motive (.unparsed s))
    (and : ∀ es, (∀ e ∈ es, motive e) → motive (.and es))
    (or : ∀ es, (∀ e ∈ es, motive e) → motive (.or es)) : ∀ e, motive e
  | .all => all
  | .condition c => condition c
  | .unparsed s => unparsed s
  | .and es => and es fun e _ => induction all condition unparsed and or e
  | .or es => or es fun e _ => induction all condition unparsed and or e

/-! ## Parts -/

theorem leavesOf_eq (es : List Expression) : leavesOf es = es.flatMap leaves := by
  induction es with
  | nil => rfl
  | cons e es ih => rw [leavesOf, List.flatMap_cons, ih]

section
variable {es : List Expression} {c : Condition}

theorem mem_conditions_and : c ∈ (and es).conditions ↔ ∃ e ∈ es, c ∈ e.conditions := by
  rw [conditions, leaves, leavesOf_eq, List.filterMap_flatMap, List.mem_flatMap]
  rfl

theorem mem_conditions_or : c ∈ (or es).conditions ↔ ∃ e ∈ es, c ∈ e.conditions :=
  mem_conditions_and

end

theorem holds_and (es : List Expression) (r : Record) :
    (and es).holds r ↔ ∀ e ∈ es, e.holds r := by
  rw [holds, allHold_eq, List.all_eq_true]

theorem holds_or (es : List Expression) (r : Record) :
    (or es).holds r ↔ ∃ e ∈ es, e.holds r := by
  rw [holds, anyHold_eq, List.any_eq_true]

theorem mapConditions_and (f : Condition → Condition) (es : List Expression) :
    (and es).mapConditions f = and (es.map (mapConditions f)) := by
  rw [mapConditions, mapConditionsIn_eq]

theorem mapConditions_or (f : Condition → Condition) (es : List Expression) :
    (or es).mapConditions f = or (es.map (mapConditions f)) := by
  rw [mapConditions, mapConditionsIn_eq]

/-! ## Replaced conditions -/

theorem mapConditions_eq_self {f : Condition → Condition} {e : Expression}
    (h : ∀ c ∈ e.conditions, f c = c) : e.mapConditions f = e := by
  induction e with
  | all => rfl
  | condition c => rw [mapConditions, h c (List.mem_singleton_self c)]
  | unparsed s => rfl
  | and es ih =>
    have hparts : ∀ e ∈ es, e.mapConditions f = e :=
      fun e he => ih e he fun c hc => h c (mem_conditions_and.2 ⟨e, he, hc⟩)
    rw [mapConditions_and, List.map_congr_left hparts, List.map_id']
  | or es ih =>
    have hparts : ∀ e ∈ es, e.mapConditions f = e :=
      fun e he => ih e he fun c hc => h c (mem_conditions_or.2 ⟨e, he, hc⟩)
    rw [mapConditions_or, List.map_congr_left hparts, List.map_id']

theorem mapConditions_mapConditions (f g : Condition → Condition) (e : Expression) :
    (e.mapConditions f).mapConditions g = e.mapConditions (g ∘ f) := by
  induction e with
  | all => rfl
  | condition c => rfl
  | unparsed s => rfl
  | and es ih =>
    rw [mapConditions_and, mapConditions_and, mapConditions_and, List.map_map]
    exact congrArg and (List.map_congr_left ih)
  | or es ih =>
    rw [mapConditions_or, mapConditions_or, mapConditions_or, List.map_map]
    exact congrArg or (List.map_congr_left ih)

/-- Two expressions with the same connectives and the same unread texts, whose conditions at the
same places are related. -/
inductive Matched (R : Condition → Condition → Prop) : Expression → Expression → Prop
  | all : Matched R .all .all
  | condition {c d : Condition} (h : R c d) : Matched R (.condition c) (.condition d)
  | unparsed (text : String) : Matched R (.unparsed text) (.unparsed text)
  | and {es fs : List Expression} (h : List.Forall₂ (Matched R) es fs) : Matched R (.and es) (.and fs)
  | or {es fs : List Expression} (h : List.Forall₂ (Matched R) es fs) : Matched R (.or es) (.or fs)

theorem matched_mapConditions {R : Condition → Condition → Prop} {f : Condition → Condition}
    (h : ∀ c, R c (f c)) (e : Expression) : Matched R e (e.mapConditions f) := by
  have hall : ∀ es : List Expression, (∀ e ∈ es, Matched R e (e.mapConditions f)) →
      List.Forall₂ (Matched R) es (es.map (mapConditions f)) := by
    intro es hes
    rw [List.forall₂_map_right_iff]
    exact List.forall₂_same.2 hes
  induction e with
  | all => exact .all
  | condition c => exact .condition (h c)
  | unparsed s => exact .unparsed s
  | and es ih =>
    rw [mapConditions_and]
    exact .and (hall es ih)
  | or es ih =>
    rw [mapConditions_or]
    exact .or (hall es ih)

/-- If a record satisfies an expression, another satisfies it with its conditions replaced, provided
that it satisfies the replacement of each condition that the first satisfies. -/
theorem holds_mapConditions {f : Condition → Condition} {e : Expression} {r s : Record}
    (h : ∀ c ∈ e.conditions, c.holds r → (f c).holds s) (he : e.holds r) :
    (e.mapConditions f).holds s := by
  induction e with
  | all => rfl
  | condition c => exact h c (List.mem_singleton_self c) he
  | unparsed s => cases he
  | and es ih =>
    rw [mapConditions_and, holds_and, List.forall_mem_map]
    rw [holds_and] at he
    exact fun e hmem => ih e hmem (fun c hc => h c (mem_conditions_and.2 ⟨e, hmem, hc⟩)) (he e hmem)
  | or es ih =>
    rw [holds_or] at he
    obtain ⟨e, hmem, he⟩ := he
    rw [mapConditions_or, holds_or]
    exact ⟨_, List.mem_map_of_mem hmem,
      ih e hmem (fun c hc => h c (mem_conditions_or.2 ⟨e, hmem, hc⟩)) he⟩

/-- The verdict on a record depends on the verdicts of the conditions alone. -/
theorem holds_congr {e : Expression} {r s : Record}
    (h : ∀ c ∈ e.conditions, c.holds r = c.holds s) : e.holds r = e.holds s := by
  have hself : e.mapConditions id = e := mapConditions_eq_self fun _ _ => rfl
  rw [Bool.eq_iff_iff]
  constructor
  · intro hr
    rw [← hself]
    exact holds_mapConditions (fun c hc hcr => (h c hc).symm.trans hcr) hr
  · intro hs
    rw [← hself]
    exact holds_mapConditions (fun c hc hcs => (h c hc).trans hcs) hs

end SurveyTables.Expression
