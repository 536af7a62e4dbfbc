import SurveyTables.Equation.Checkbox
import SurveyTables.Proofs.Dataset.Loading
import SurveyTables.Proofs.Equation.Tree

/-!
# Conditions on checkbox columns

* `Condition.AsksOption` : the conditions that are read as conditions on a checkbox column;
  `Condition.Translates`, `Condition.translates_toCheckbox` : what becomes of any condition;
* `Condition.toCheckbox_of_mem` : a condition on a code of the header stays as it is, and so does one
  that was translated (`Condition.toCheckbox_toCheckbox`);
* `Dataset.Covered` : the records have no other codes than the header, as in all datasets that are
  loaded (`Dataset.Holds.covered`). So a condition on another code has no respondents
  (`Dataset.Covered.holds_eq_false`);
* `RowSelection.indices_select_sublist` : more respondents, more rows;
* `Expression.toCheckbox_adds_rows` : all of this for an expression and the rows that it selects.
-/

namespace SurveyTables

/-! ## One condition -/

namespace Condition

/-- The condition is on a numbered option of a variable that is not in the header, which has a column
for the option instead. -/
structure AsksOption (d : Dataset) (option : String) (c : Condition) : Prop where
  equality : c.operator = .equal ∨ c.operator = .notEqual
  operand : c.operand = .scalar option
  ne_empty : option ≠ ""
  digits : ∀ x ∈ option.toList, x.isDigit
  absent : c.code ∉ d.columns
  present : c.code ++ "r" ++ option ∈ d.columns

/-- The second condition is on the column of the option that the first asks for, and is the first
itself if it asks for none. -/
inductive Translates (d : Dataset) (c : Condition) : Condition → Prop
  | column {option : String} (h : c.AsksOption d option) :
      Translates d c ⟨c.code ++ "r" ++ option, c.operator, .scalar "1"⟩
  | same (h : ∀ option, ¬ c.AsksOption d option) : Translates d c c

variable {d : Dataset} {c : Condition}

theorem isOptionNumber_iff {option : String} :
    isOptionNumber option ↔ option ≠ "" ∧ ∀ x ∈ option.toList, x.isDigit := by
  rw [isOptionNumber, Bool.and_eq_true, bne_iff_ne, List.all_eq_true]

theorem AsksOption.toCheckbox_eq {option : String} (h : c.AsksOption d option) :
    c.toCheckbox d = ⟨c.code ++ "r" ++ option, c.operator, .scalar "1"⟩ := by
  have hop : c.operator.isEquality := Operator.isEquality_iff.2 h.equality
  have hoption : isOptionNumber option := isOptionNumber_iff.2 ⟨h.ne_empty, h.digits⟩
  rw [toCheckbox, h.operand]
  simp [hop, hoption, Dataset.hasColumn, h.absent, h.present]

theorem toCheckbox_of_not_asksOption (h : ∀ option, ¬ c.AsksOption d option) :
    c.toCheckbox d = c := by
  rw [toCheckbox]
  split
  · rename_i option hoperand
    split
    · rename_i hcond
      simp only [Dataset.hasColumn, Bool.and_eq_true, Bool.not_eq_true', List.contains_iff_mem,
        ← Bool.not_eq_true, Operator.isEquality_iff, isOptionNumber_iff] at hcond
      obtain ⟨⟨⟨hop, hne, hdigits⟩, habsent⟩, hpresent⟩ := hcond
      exact absurd ⟨hop, hoperand, hne, hdigits, habsent, hpresent⟩ (h option)
    · rfl
  · rfl

theorem translates_toCheckbox (d : Dataset) (c : Condition) : c.Translates d (c.toCheckbox d) := by
  by_cases h : ∃ option, c.AsksOption d option
  · obtain ⟨option, h⟩ := h
    rw [h.toCheckbox_eq]
    exact .column h
  · have hnone := not_exists.1 h
    rw [toCheckbox_of_not_asksOption hnone]
    exact .same hnone

theorem toCheckbox_of_mem (h : c.code ∈ d.columns) : c.toCheckbox d = c :=
  toCheckbox_of_not_asksOption fun _ hoption => hoption.absent h

/-- The column of an option is in the header, so nothing is left to translate. -/
theorem toCheckbox_toCheckbox (d : Dataset) (c : Condition) :
    (c.toCheckbox d).toCheckbox d = c.toCheckbox d := by
  by_cases h : ∃ option, c.AsksOption d option
  · obtain ⟨option, h⟩ := h
    rw [h.toCheckbox_eq]
    exact toCheckbox_of_mem h.present
  · rw [toCheckbox_of_not_asksOption (not_exists.1 h)]
    exact toCheckbox_of_not_asksOption (not_exists.1 h)

end Condition

/-! ## Records under the header -/

namespace Dataset

/-- No record has a code that the header does not have. -/
def Covered (d : Dataset) : Prop := ∀ r ∈ d.records, ∀ code ∈ r.codes, code ∈ d.columns

theorem Holds.covered {rows : List (List String)} {d : Dataset} (h : d.Holds rows) :
    d.Covered := by
  intro r hr code hcode
  obtain ⟨fields, -, hrow⟩ := h.exists_row hr
  rw [hrow.codes] at hcode
  exact List.mem_of_mem_take hcode

section
variable {d : Dataset} (h : d.Covered) {c : Condition} {r : Record} (hr : r ∈ d.records)
include h hr

theorem Covered.holds_eq_false (hc : c.code ∉ d.columns) : c.holds r = false := by
  have hnone : r.get? c.code = none := by
    rw [Option.eq_none_iff_forall_ne_some]
    intro v hv
    exact hc (h r hr _ (Record.mem_codes_of_get? hv))
  rw [Condition.holds, Record.response?, hnone]
  rfl

/-- A condition that is translated had no respondents. -/
theorem Covered.holds_toCheckbox (hc : c.holds r) : (c.toCheckbox d).holds r := by
  have hmem : c.code ∈ d.columns := by
    by_contra hmem
    rw [h.holds_eq_false hr hmem] at hc
    cases hc
  rwa [Condition.toCheckbox_of_mem hmem]

end

end Dataset

/-! ## Selected rows -/

namespace RowSelection

theorem numbersFrom_sublist {p q : Record → Bool} {l : List Record} (h : ∀ r ∈ l, p r → q r)
    (start : Nat) : (numbersFrom p start l).Sublist (numbersFrom q start l) := by
  induction l generalizing start with
  | nil => exact List.Sublist.slnil
  | cons r l ih =>
    have hrest := ih (fun s hs => h s (List.mem_cons_of_mem r hs)) (start + 1)
    have hr := h r List.mem_cons_self
    unfold numbersFrom
    by_cases hp : p r
    · rw [if_pos hp, if_pos (hr hp)]
      exact hrest.cons_cons start
    · rw [if_neg hp]
      split
      · exact hrest.cons start
      · exact hrest

theorem indices_select_sublist {d : Dataset} {e f : Expression} (hall : f.isAll = e.isAll)
    (h : ∀ r ∈ d.records, e.holds r → f.holds r) :
    (select d e).indices.Sublist (select d f).indices := by
  rw [select, select, hall]
  split
  · exact List.Sublist.refl _
  · exact numbersFrom_sublist h 0

end RowSelection

/-! ## Expressions -/

namespace Expression

open RowSelection

theorem isAll_mapConditions (f : Condition → Condition) (e : Expression) :
    (e.mapConditions f).isAll = e.isAll := by
  cases e <;> rfl

/-- An expression is translated condition by condition, and nothing is left to translate then. In a
dataset as they are loaded, the rows that it selects are selected afterwards as well, and no others
if all its variables are in the header. -/
theorem toCheckbox_adds_rows :
    (∀ (s : DatasetSource) (d : Dataset), s.load = .ok d → ∀ rows, (d.offerAll rows).Covered) ∧
      ∀ (d : Dataset) (e : Expression),
        (e.toCheckbox d).toCheckbox d = e.toCheckbox d ∧
          Matched (Condition.Translates d) e (e.toCheckbox d) ∧
          (d.Covered → (select d e).indices.Sublist (select d (e.toCheckbox d)).indices) ∧
          ((∀ c ∈ e.conditions, c.code ∈ d.columns) →
            select d (e.toCheckbox d) = select d e) := by
  refine ⟨fun s d h rows => ?_, fun d e => ⟨?_, ?_, fun h => ?_, fun h => ?_⟩⟩
  · obtain ⟨loaded, -, hholds⟩ := DatasetSource.holds_of_load h
    exact (hholds.offerAll rows).2.covered
  · rw [toCheckbox, toCheckbox, mapConditions_mapConditions]
    exact congrArg (mapConditions · e) (funext (Condition.toCheckbox_toCheckbox d))
  · exact matched_mapConditions (Condition.translates_toCheckbox d) e
  · refine indices_select_sublist (isAll_mapConditions _ e) fun r hr he => ?_
    exact holds_mapConditions (fun c _ hc => h.holds_toCheckbox hr hc) he
  · have hself : e.toCheckbox d = e :=
      mapConditions_eq_self fun c hc => Condition.toCheckbox_of_mem (h c hc)
    rw [hself]

/-- Two respondents and the columns of two options. One condition asks for an option, another is on a
code of the header; a third one asks for an option without a column. -/
theorem toCheckbox_adds_rows_two_options :
    let d : Dataset := ⟨["S7r1", "S7r2", "Q1"],
      [Record.ofList [("S7r1", .text "0"), ("S7r2", .text "1"), ("Q1", .text "4")],
        Record.ofList [("S7r1", .text "1"), ("S7r2", .text "0"), ("Q1", .text "2")]]⟩
    let e : Expression := .or [.condition ⟨"S7", .equal, .scalar "2"⟩,
      .condition ⟨"Q1", .less, .scalar "3"⟩, .condition ⟨"S7", .notEqual, .scalar "9"⟩]
    let q : Expression := .condition ⟨"Q1", .less, .scalar "3"⟩
    d.Covered ∧ (select d e).indices = [1] ∧ (select d (e.toCheckbox d)).indices = [0, 1] ∧
      (select d e).indices.Sublist (select d (e.toCheckbox d)).indices ∧
      select d (q.toCheckbox d) = select d q := by
  intro d e q
  have hcovered : d.Covered := by
    unfold Dataset.Covered
    decide +kernel
  exact ⟨hcovered, by decide +kernel, by decide +kernel,
    (toCheckbox_adds_rows.2 d e).2.2.1 hcovered,
    (toCheckbox_adds_rows.2 d q).2.2.2 (List.forall_mem_singleton.2 (by decide))⟩

end Expression

end SurveyTables
