import SurveyTables.Proofs.Table.Tally
import SurveyTables.Proofs.Value.Number

/-!
# Nets as conditions

A net groups the answers that some condition admits.

* `RangeOperator.comparison?` : the comparison with one value that a bound stands for;
* `Net.Denotes` : a net and a condition on a variable that says the same; the value of a comparison
  may be written as any text that is read as it;
* `Net.Denotes.matchesValue_eq` : the two agree on an answer, `Net.Denotes.any_response?_eq` on a
  record;
* `Net.matches_and_counts_eq` : so a table counts a net as an equation would.
-/

namespace SurveyTables

def RangeOperator.comparison? : RangeOperator → Option Operator
  | .between => none
  | .atLeast | .greaterEqual => some .greaterEqual
  | .less => some .less
  | .greater => some .greater
  | .lessEqual => some .lessEqual
  | .exact => some .equal

/-- The condition on the variable `code` says what the net says. -/
inductive Net.Denotes (code : String) : Net → Condition → Prop
  | codes (n : CodesNet) : Denotes code (.codes n) ⟨code, .equal, .list n.codes⟩
  | between (n : RangeNet) (upper : Float) (hop : n.operator = .between)
      (hupper : n.value2 = some upper) :
      Denotes code (.range n) ⟨code, .equal, .range n.value1 upper⟩
  | comparison (n : RangeNet) (op : Operator) (text : String) (hop : n.operator.comparison? = some op)
      (htext : numberOfText? text = some n.value1) :
      Denotes code (.range n) ⟨code, op, .scalar text⟩

/-- A number is in a range exactly when it compares so with the value of the range. -/
theorem RangeNet.contains_of_comparison {n : RangeNet} {op : Operator}
    (h : n.operator.comparison? = some op) (x : Float) : n.contains x = op.compare x n.value1 := by
  unfold contains
  cases hn : n.operator <;> rw [hn] at h <;> cases h <;> rfl

/-- An answer that is no number is equal to no number text. -/
theorem Condition.scalarHolds_of_number?_eq_none {op : RangeOperator} {cmp : Operator}
    {text : String} {x : Float} {v : Value} (hop : op.comparison? = some cmp)
    (ht : numberOfText? text = some x) (hm : v.isMissing = false) (hv : v.number? = none) :
    scalarHolds cmp text v = false := by
  have hne : v.display ≠ text := by
    rintro rfl
    exact Value.number?_ne_none_of_display hm ht hv
  rw [scalarHolds, hv]
  -- of the comparisons that a net makes, only equality is defined on texts
  cases op <;> cases hop <;> simp [Operator.ofEquality, hne]

namespace Net.Denotes

variable {code : String} {n : Net} {c : Condition}

theorem code_eq (h : Denotes code n c) : c.code = code := by
  cases h <;> rfl

/-- The net and the condition agree on an answer that is not missing. -/
theorem matchesValue_eq (h : Denotes code n c) {v : Value} (hm : v.isMissing = false) :
    n.matchesValue v = c.admits v := by
  unfold matchesValue
  rw [hm, Bool.not_false, Bool.true_and]
  cases h with
  | codes n => rfl
  | between n upper hop hupper =>
    have hc : n.contains = fun x => decide (n.value1 ≤ x) && decide (x ≤ upper) := by
      funext x
      unfold RangeNet.contains
      rw [hop, hupper]
      rfl
    change v.number?.any n.contains = _
    rw [hc]
    rfl
  | comparison n op text hop htext =>
    have hc : n.contains = fun x => op.compare x n.value1 :=
      funext (RangeNet.contains_of_comparison hop)
    change v.number?.any n.contains = Condition.scalarHolds op text v
    cases hv : v.number? with
    | some x => rw [hc, Condition.scalarHolds, hv, htext]; rfl
    | none => exact (Condition.scalarHolds_of_number?_eq_none hop htext hm hv).symm

/-- The net and the condition agree on a record, whatever it holds for the variable. -/
theorem any_response?_eq (h : Denotes code n c) (r : Record) :
    (r.response? code).any n.matchesValue = c.holds r := by
  rw [Condition.holds, h.code_eq]
  cases hr : r.response? code with
  | none => rfl
  | some v =>
    have hm : v.isMissing = false := by simpa using (Option.filter_eq_some_iff.1 hr).2
    exact h.matchesValue_eq hm

theorem countP_responses (h : Denotes code n c) (records : List Record) :
    (responses code records).countP n.matchesValue = records.countP c.holds := by
  unfold responses
  rw [List.countP_filterMap]
  apply List.countP_congr
  intro r _
  rw [← h.any_response?_eq r]
  cases r.response? code <;> rfl

end Net.Denotes

namespace Net

/-- A missing answer is in no net, so it may as well be left out before. -/
theorem any_get?_eq (n : Net) (r : Record) (code : String) :
    (r.get? code).any n.matchesValue = (r.response? code).any n.matchesValue := by
  unfold Record.response?
  cases hv : r.get? code with
  | none => rfl
  | some v =>
    cases hm : v.isMissing with
    | true => simp [hm, matchesValue_of_isMissing hm]
    | false => simp [hm]

/-- A net and the condition that says the same hold of the same records, and a table counts the net
as often as the condition holds. -/
theorem matches_and_counts_eq (code : String) :
    (∀ (n : Net) (c : Condition), Denotes code n c → ∀ r : Record,
        (r.response? code).any n.matchesValue = c.holds r ∧
          (r.get? code).any n.matchesValue = c.holds r) ∧
      ∀ (nets : List Net) (records : List Record), 0 < records.length →
        ∀ (k : Nat) (n : Net) (c : Condition), nets[k]? = some n → Denotes code n c →
          (categoricalStats code nets records.length records).nets[k]?.map NetFrequency.count =
            some (records.countP c.holds) := by
  refine ⟨fun n c h r => ⟨h.any_response?_eq r, ?_⟩, ?_⟩
  · rw [any_get?_eq, h.any_response?_eq]
  · intro nets records hb k n c hk h
    rw [nets_categoricalStats (Nat.ne_of_gt hb), List.getElem?_map, hk, ← h.countP_responses]
    rfl

/-- Eighteen or more, counted among three answers of which one is no number. -/
theorem matches_and_counts_adults :
    let n : RangeNet := ⟨none, .atLeast, 18, none⟩
    let c : Condition := ⟨"AGE", .greaterEqual, .scalar " 18.0 "⟩
    let records := [Record.ofList [("AGE", .text "40")], Record.ofList [("AGE", .text "old")],
      Record.ofList [("AGE", .number 17)]]
    Denotes "AGE" (.range n) c ∧ 0 < records.length ∧
      (categoricalStats "AGE" [.range n] records.length records).nets[0]?.map NetFrequency.count =
        some (records.countP c.holds) ∧ records.countP c.holds = 1 := by
  intro n c records
  have h : Denotes "AGE" (.range n) c := .comparison n _ _ rfl (by decide +kernel)
  exact ⟨h, by decide, (matches_and_counts_eq "AGE").2 [.range n] records (by decide) 0 _ c rfl h,
    by decide +kernel⟩

end Net

end SurveyTables
