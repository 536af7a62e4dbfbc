import SurveyTables.Equation.Selection
import SurveyTables.Proofs.Equation.Acceptance
import SurveyTables.Proofs.Equation.Meaning
import SurveyTables.Proofs.Equation.Order

/-!
# Comparisons of a variable with one value

* `Operand.exists_read_equality`, `Operand.read_scalar` : a value that is no range stands for the
  same under `=` and `!=`, and without a comma for itself under every operator;
* `Condition.admits_notEqual`, `Condition.scalarHolds_of_number`, `Condition.scalarHolds_of_text` :
  the verdicts of the operators on one response;
* `Equation.holds_comparison`, `Equation.holds_of_read` : the verdict of an equation that is a
  single comparison;
* `Equation.split_by_comparison` : equal, unequal and without a response split the respondents, and
  so do the three comparisons of numbers.
-/

namespace SurveyTables

open Text

/-! ## What a value stands for -/

section
variable {raw : List Char} (h : ∀ min max, ¬ Operand.IsRange raw min max)
include h

theorem Operand.exists_read_equality :
    ∃ v, (∀ min max, v ≠ .range min max) ∧
      ∀ op : Operator, op = .equal ∨ op = .notEqual → Operand.read op raw = .ok v := by
  by_cases hcomma : ',' ∈ raw
  · obtain ⟨-, hpieces, hraw⟩ := splitOn_spec ',' raw
    exact ⟨.list _, nofun, fun op hop => (Reads.list h hcomma hop hpieces hraw.symm).read_eq⟩
  · exact ⟨.scalar _, nofun, fun op _ => (Reads.scalar h hcomma).read_eq⟩

theorem Operand.read_scalar (hcomma : ',' ∉ raw) (op : Operator) :
    Operand.read op raw = .ok (.scalar (String.ofList raw)) :=
  (Reads.scalar h hcomma).read_eq

end

/-! ## One response -/

theorem Value.isNaN_of_number? {v : Value} {x : Float} (h : v.number? = some x) :
    x.isNaN = false := by
  cases v with
  | empty => cases h
  | text s => exact Operand.isNaN_of_numberOfText? h
  | number y =>
    rw [number?, Option.ite_none_left_eq_some] at h
    obtain ⟨hy, h⟩ := h
    obtain rfl := Option.some.inj h
    exact Bool.eq_false_iff.2 hy

namespace Condition

/-- A response that is equal to the value is not unequal to it, and the other way round. -/
theorem admits_notEqual {v : Operand} (hv : ∀ min max, v ≠ .range min max) (code : String)
    (cell : Value) : admits ⟨code, .notEqual, v⟩ cell = !admits ⟨code, .equal, v⟩ cell := by
  cases v with
  | range min max => exact absurd rfl (hv min max)
  | list items => rfl
  | scalar raw =>
    show scalarHolds .notEqual raw cell = !scalarHolds .equal raw cell
    unfold scalarHolds
    split <;> rfl

section
variable {raw : String} {cell : Value}

theorem scalarHolds_of_number {x y : Float} (hx : cell.number? = some x)
    (hy : numberOfText? raw = some y) (op : Operator) :
    scalarHolds op raw cell = op.compare x y := by
  rw [scalarHolds, hx, hy]

/-- Texts are only equal or not. -/
theorem scalarHolds_of_text (h : cell.number? = none ∨ numberOfText? raw = none) {op : Operator}
    (hop : op ∈ [Operator.greater, .less, .greaterEqual, .lessEqual]) :
    scalarHolds op raw cell = false := by
  have hequality : ∀ op ∈ [Operator.greater, .less, .greaterEqual, .lessEqual],
      ∀ same, op.ofEquality same = false := by decide
  unfold scalarHolds
  split
  · rename_i hx hy
    rw [hx, hy] at h
    rcases h with h | h <;> cases h
  · exact hequality op hop _

end

end Condition

/-! ## An equation that is one comparison -/

namespace Equation

theorem holds_comparison (c : Comparison) (r : Record) :
    holds (String.ofList c.text) r = c.holds r := by
  let s : Sentence := .single (.single (.comparison c))
  have hm : isMatchAll (String.ofList c.text).toList = false := by
    rw [String.toList_ofList]
    exact s.isMatchAll_text
  rw [holds, parse, hm, String.toList_ofList]
  refine (s.holds_groups r).trans ?_
  show (((c.holds r && true) || false) : Bool) = c.holds r
  rw [Bool.and_true, Bool.or_false]

/-- The verdict is that of the condition, on the response if there is one. -/
theorem holds_of_read {c : Comparison} (h : c.Apart) {v : Operand}
    (hv : Operand.read c.operator c.value.chars = .ok v) (r : Record) :
    holds (String.ofList c.text) r = (r.response? (String.ofList c.code.chars)).any
      (Condition.admits ⟨String.ofList c.code.chars, c.operator, v⟩) := by
  rw [holds_comparison, Comparison.holds, Comparison.read_text h, hv]
  rfl

section
variable (code : Run Condition.isCodeChar) {value : Run isValueChar}
  (h : ∀ min max, ¬ Operand.IsRange value.chars min max)
include h

/-- A respondent's answer is equal to the value, or it is not, or there is none. -/
theorem count_equality (r : Record) :
    [holds (String.ofList (Comparison.text ⟨code, .equal, value⟩)) r,
      holds (String.ofList (Comparison.text ⟨code, .notEqual, value⟩)) r,
      (r.response? (String.ofList code.chars)).isNone].count true = 1 := by
  obtain ⟨v, hrange, hread⟩ := Operand.exists_read_equality h
  rw [holds_of_read (c := ⟨code, .equal, value⟩) (by rintro (h | h) <;> cases h)
      (hread .equal (Or.inl rfl)),
    holds_of_read (c := ⟨code, .notEqual, value⟩) (by rintro (h | h) <;> cases h)
      (hread .notEqual (Or.inr rfl))]
  cases r.response? (String.ofList code.chars) with
  | none => rfl
  | some cell =>
    rw [Option.any_some, Option.any_some, Condition.admits_notEqual hrange]
    cases Condition.admits _ cell <;> rfl

/-- A value without a comma is compared as it stands, by every operator. -/
theorem holds_scalar (hcomma : ',' ∉ value.chars) (hhead : value.chars.head? ≠ some '=')
    (op : Operator) (r : Record) :
    holds (String.ofList (Comparison.text ⟨code, op, value⟩)) r =
      (r.response? (String.ofList code.chars)).any
        (Condition.scalarHolds op (String.ofList value.chars)) :=
  holds_of_read (c := ⟨code, op, value⟩) (fun _ => hhead) (Operand.read_scalar h hcomma op) r

end

theorem length_filter_add {α : Type} {p q s : α → Bool}
    (h : ∀ x, [p x, q x, s x].count true = 1) (l : List α) :
    (l.filter p).length + (l.filter q).length + l.countP s = l.length := by
  induction l with
  | nil => rfl
  | cons x l ih =>
    have hx := h x
    simp only [← List.countP_eq_length_filter, List.countP_cons, List.length_cons] at ih ⊢
    cases hp : p x <;> cases hq : q x <;> cases hs : s x <;> simp [hp, hq, hs] at hx ⊢ <;> omega

/-- Equal to a value, unequal to it and without a response split the respondents, unless the value
is a range. For a single value the comparisons of numbers do so as well, and nothing that is not a
number is above or below anything. -/
theorem split_by_comparison (code : Run Condition.isCodeChar) (value : Run isValueChar)
    (h : ∀ min max, ¬ Operand.IsRange value.chars min max) :
    let text (op : Operator) : String := String.ofList (Comparison.text ⟨code, op, value⟩)
    let response (r : Record) : Option Value := r.response? (String.ofList code.chars)
    (∀ r, [holds (text .equal) r, holds (text .notEqual) r, (response r).isNone].count true = 1) ∧
    (∀ d : Dataset, (d.filter (text .equal)).length + (d.filter (text .notEqual)).length +
      d.records.countP (fun r => (response r).isNone) = d.size) ∧
    (',' ∉ value.chars → value.chars.head? ≠ some '=' → ∀ r,
      (∀ x y, (response r).bind Value.number? = some x →
        numberOfText? (String.ofList value.chars) = some y →
          [holds (text .less) r, holds (text .equal) r, holds (text .greater) r].count true = 1 ∧
          holds (text .greaterEqual) r = (holds (text .greater) r || holds (text .equal) r) ∧
          holds (text .lessEqual) r = (holds (text .less) r || holds (text .equal) r)) ∧
      ((response r).bind Value.number? = none ∨
        numberOfText? (String.ofList value.chars) = none →
          ∀ op ∈ [Operator.greater, .less, .greaterEqual, .lessEqual],
            holds (text op) r = false)) := by
  intro text response
  refine ⟨count_equality code h, fun d => ?_, fun hcomma hhead r => ?_⟩
  · rw [Dataset.filter_eq, Dataset.filter_eq]
    exact length_filter_add (count_equality code h) d.records
  have hverdict : ∀ op, holds (text op) r =
      (response r).any (Condition.scalarHolds op (String.ofList value.chars)) :=
    fun op => holds_scalar code h hcomma hhead op r
  refine ⟨fun x y hx hy => ?_, fun hnone op hop => ?_⟩
  · obtain ⟨cell, hcell, hcx⟩ := Option.bind_eq_some_iff.1 hx
    have hcompare : ∀ op, holds (text op) r = op.compare x y := by
      intro op
      rw [hverdict, hcell, Option.any_some, Condition.scalarHolds_of_number hcx hy]
    simp only [hcompare]
    exact ⟨Operator.count_compare (Value.isNaN_of_number? hcx) (Operand.isNaN_of_numberOfText? hy),
      Operator.compare_greaterEqual x y, Operator.compare_lessEqual x y⟩
  · rw [hverdict, Option.any_eq_false]
    intro cell hcell
    rw [hcell, Option.bind_some] at hnone
    exact Condition.scalarHolds_of_text hnone hop

/-- Respondents with a number, with a text that is none and without a response. -/
theorem split_by_comparison_two :
    let code : Run Condition.isCodeChar := ⟨"Q1".toList, by decide, List.all_eq_true.1 rfl⟩
    let value : Run isValueChar := ⟨"2.0".toList, by decide, List.all_eq_true.1 rfl⟩
    let text (op : Operator) : String := String.ofList (Comparison.text ⟨code, op, value⟩)
    let two := Record.ofList [("Q1", .number 2)]
    let word := Record.ofList [("Q1", .text "two")]
    let d : Dataset := ⟨["Q1"], [two, word, Record.empty]⟩
    (∀ min max, ¬ Operand.IsRange value.chars min max) ∧ text .notEqual = "Q1!=2.0" ∧
      [holds (text .equal) word, holds (text .notEqual) word,
        (word.response? (String.ofList code.chars)).isNone].count true = 1 ∧
      (d.filter (text .equal)).length + (d.filter (text .notEqual)).length +
        d.records.countP (fun r => (r.response? (String.ofList code.chars)).isNone) = d.size ∧
      [holds (text .less) two, holds (text .equal) two, holds (text .greater) two].count true = 1 ∧
      holds (text .greaterEqual) two = (holds (text .greater) two || holds (text .equal) two) ∧
      holds (text .equal) two = true ∧ holds (text .greaterEqual) word = false := by
  intro code value text two word d
  have h : ∀ min max, ¬ Operand.IsRange value.chars min max :=
    Operand.readRange?_eq_none_iff.1 (by decide +kernel)
  obtain ⟨heach, hlengths, hordered⟩ := split_by_comparison code value h
  have hordered := hordered (by decide) (by decide)
  have htwo : (two.response? (String.ofList code.chars)).bind Value.number? = some 2 := by
    decide +kernel
  have hvalue : numberOfText? (String.ofList value.chars) = some 2 := by decide +kernel
  obtain ⟨hone, hge, -⟩ := (hordered two).1 2 2 htwo hvalue
  have hword : (word.response? (String.ofList code.chars)).bind Value.number? = none := by
    decide +kernel
  exact ⟨h, by decide +kernel, heach word, hlengths d, hone, hge, by decide +kernel,
    (hordered word).2 (Or.inl hword) .greaterEqual (by decide)⟩

end Equation

end SurveyTables
