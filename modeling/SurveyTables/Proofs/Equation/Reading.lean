import SurveyTables.Proofs.Decimal.Characters
import SurveyTables.Proofs.Equation.Grammar

/-!
# Reading one condition

* `Comparison.Apart` : the operator cannot be taken for a longer one;
* `Comparison.read_text` : then a comparison is read as its code, its operator and what its value is
  read as;
* `readRange?_append`, `readRange?_eq_none`, `readRange?_of_comma` : which values are ranges.
-/

namespace SurveyTables.Equation

open Text

/-! ## Code, operator and value -/

/-- The value does not go on with an equals sign where that would make another operator. -/
def Comparison.Apart (c : Comparison) : Prop :=
  c.operator = .greater ∨ c.operator = .less → c.value.chars.head? ≠ some '='

theorem valueText?_run (v : Run isValueChar) : Condition.valueText? v.chars = some v.chars := by
  have hblank : ∀ c ∈ v.chars, isBlank c = false := fun c hc => isBlank_of_isValueChar (v.all c hc)
  have hline : v.chars.contains '\n' = false := by
    rw [Bool.eq_false_iff]
    intro h
    exact absurd (hblank '\n' (List.contains_iff_mem.1 h)) (by decide)
  have hstart : trimStart v.chars = v.chars := (stops_of_forall hblank).dropWhile_eq
  rw [Condition.valueText?, hstart, hline, if_neg]
  simp [v.ne_nil]

theorem isPrefixOf?_symbol_append (op : Operator) (v : List Char) :
    op.symbol.toList.isPrefixOf? (op.symbol.toList ++ v) = some v := by
  cases op <;> rfl

/-- Longer symbols are tried first. -/
theorem pairwise_all :
    Operator.all.Pairwise fun a b => a ≠ b ∧ b.symbol.length ≤ a.symbol.length := by
  decide

theorem isPrefixOf?_symbol_eq_none {a b : Operator} (hne : a ≠ b)
    (hlength : b.symbol.length ≤ a.symbol.length) {v : List Char}
    (hv : b = .greater ∨ b = .less → v.head? ≠ some '=') :
    a.symbol.toList.isPrefixOf? (b.symbol.toList ++ v) = none := by
  have hequals : v.head? ≠ some '=' → "=".toList.isPrefixOf? v = none := by
    intro h
    cases v with
    | nil => rfl
    | cons d v =>
      refine if_neg ?_
      rw [beq_iff_eq]
      rintro rfl
      exact h rfl
  -- the symbols differ in their first characters, or only the equals sign tells them apart
  cases b with
  | equal =>
    cases a with
    | equal => exact absurd rfl hne
    | _ => rfl
  | greater =>
    cases a with
    | greater => exact absurd rfl hne
    | greaterEqual => exact hequals (hv (Or.inl rfl))
    | _ => rfl
  | less =>
    cases a with
    | less => exact absurd rfl hne
    | lessEqual => exact hequals (hv (Or.inr rfl))
    | _ => rfl
  | _ => cases a <;> first | rfl | exact absurd rfl hne | exact absurd hlength (by decide)

theorem mem_all (op : Operator) : op ∈ Operator.all := by
  cases op <;> decide

/-- The operator is split off if its value does not begin like the rest of a longer one. -/
theorem splitOperator?_append {op : Operator} {v w : List Char}
    (hw : Condition.valueText? v = some w)
    (hv : op = .greater ∨ op = .less → v.head? ≠ some '=') :
    Condition.splitOperator? (op.symbol.toList ++ v) = some (op, w) := by
  obtain ⟨before, after, hall⟩ := List.append_of_mem (mem_all op)
  rw [Condition.splitOperator?]
  refine List.findSome?_eq_some_iff.2 ⟨before, op, after, hall, ?_, fun a ha => ?_⟩
  · rw [isPrefixOf?_symbol_append, Option.bind_some, hw, Option.map_some]
  · have hpairs := pairwise_all
    rw [hall, List.pairwise_append] at hpairs
    obtain ⟨hne, hlength⟩ := hpairs.2.2 a ha op List.mem_cons_self
    rw [isPrefixOf?_symbol_eq_none hne hlength hv, Option.bind_none]

theorem Comparison.read_text {c : Comparison} (h : c.Apart) :
    Condition.read c.text = (Operand.read c.operator c.value.chars).map fun v =>
      ⟨String.ofList c.code.chars, c.operator, v⟩ := by
  have hne : c.operator.symbol.toList ≠ [] := by cases c.operator <;> decide
  have hsymbol : Stops Condition.isCodeChar (c.operator.symbol.toList ++ c.value.chars) :=
    (stops_of_forall fun x hx => (mem_symbol _ x hx).2.2).append hne _
  have hblank : Stops isBlank (c.operator.symbol.toList ++ c.value.chars) :=
    (stops_of_forall fun x hx => isBlank_of_isValueChar (mem_symbol _ x hx).1).append hne _
  have hvalue : Tight c.value.chars :=
    Tight.of_forall c.value.ne_nil fun x hx => isBlank_of_isValueChar (c.value.all x hx)
  have hparts : Condition.splitParts? c.text =
      some (c.code.chars, c.operator, c.value.chars) := by
    rw [Comparison.text, List.append_assoc, Condition.splitParts?,
      hsymbol.takeWhile c.code.all, hsymbol.dropWhile c.code.all, if_neg (by simp [c.code.ne_nil]),
      trimStart, hblank.dropWhile_eq, splitOperator?_append (valueText?_run c.value) h,
      Option.map_some, hvalue.trim_eq]
  rw [Condition.read, c.tight.trim_eq, if_neg (by simp [c.tight.ne_nil]), hparts]

/-! ## Ranges -/

theorem readRange?_eq_none {raw : List Char}
    (h : ∀ low high, '-' ∉ low → low ≠ [] → raw = low ++ '-' :: high →
      numberOfText? (String.ofList low) = none ∨ numberOfText? (String.ofList high) = none) :
    Operand.readRange? raw = none := by
  unfold Operand.readRange?
  split
  · rfl
  · rename_i hhead
    cases hs : splitOnce? '-' raw with
    | none => rfl
    | some sides =>
      obtain ⟨low, high⟩ := sides
      obtain ⟨hlow, rfl⟩ := of_splitOnce? hs
      have hne : low ≠ [] := by
        rintro rfl
        exact hhead rfl
      rw [Option.bind_some]
      rcases h low high hlow hne rfl with hnone | hnone
      · rw [hnone, Option.bind_none]
      · rw [hnone]
        exact Option.bind_fun_none _

theorem readRange?_of_comma {raw : List Char} (h : ',' ∈ raw) : Operand.readRange? raw = none := by
  refine readRange?_eq_none fun low high _ _ hraw => ?_
  rw [hraw] at h
  rcases List.mem_append.1 h with h | h
  · exact Or.inl (numberOfText?_of_comma (by rwa [String.toList_ofList]))
  · rcases List.mem_cons.1 h with h | h
    · cases h
    · exact Or.inr (numberOfText?_of_comma (by rwa [String.toList_ofList]))

theorem readRange?_append {low high : List Char} {min max : Float} (hdash : '-' ∉ low)
    (hmin : numberOfText? (String.ofList low) = some min)
    (hmax : numberOfText? (String.ofList high) = some max) :
    Operand.readRange? (low ++ '-' :: high) = some (.range min max) := by
  have hhead : (low ++ '-' :: high).head? ≠ some '-' := by
    cases low with
    | nil => cases hmin
    | cons c low =>
      intro h
      exact hdash (Option.some.inj h ▸ List.mem_cons_self)
  rw [Operand.readRange?, if_neg hhead, splitOnce?_append hdash, Option.bind_some, hmin,
    Option.bind_some, hmax, Option.map_some]

end SurveyTables.Equation
