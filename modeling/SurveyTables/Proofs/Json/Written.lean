import SurveyTables.Json.Reader
import SurveyTables.Json.Writer
import SurveyTables.Proofs.Json.Tokens

/-!
# Values read back from their texts

* `Written n v` : every scalar in the value denotes itself, and containers stand at most `n` deep;
* `Written.passes` : the text of such a value is cut into the tokens it was put together from;
* `Written.completes` : the tokens, read inside some open containers, complete the value there;
* `parse?_compact` : so a value that is not too deep is read back from its text.
-/

namespace SurveyTables.Json

/-- Every scalar in the value denotes itself, and no scalar stands inside more than `n`
containers. -/
inductive Written : Nat → Json → Prop where
  | scalar {n : Nat} {v : Json} (h : v.IsLegible) : Written n v
  | array {n : Nat} {items : List Json} (h : ∀ v ∈ items, Written n v) :
      Written (n + 1) (.array items)
  | object {n : Nat} {fields : List (String × Json)} (h : ∀ f ∈ fields, Written n f.2) :
      Written (n + 1) (.object fields)

@[simp] theorem written_null (n : Nat) : Written n .null := .scalar trivial

@[simp] theorem written_string (n : Nat) (s : String) : Written n (.string s) := .scalar trivial

theorem Written.mono {n m : Nat} {v : Json} (h : Written n v) (hnm : n ≤ m) : Written m v := by
  induction h generalizing m with
  | scalar h => exact .scalar h
  | array h ih =>
    obtain ⟨m, rfl⟩ : ∃ k, m = k + 1 := ⟨m - 1, by omega⟩
    exact .array fun v hv => ih v hv (by omega)
  | object h ih =>
    obtain ⟨m, rfl⟩ : ∃ k, m = k + 1 := ⟨m - 1, by omega⟩
    exact .object fun f hf => ih f hf (by omega)

/-! ## From a text to tokens -/

theorem passes_itemTokens {items : List Json} (h : ∀ v ∈ items, Passes v.tokens) :
    Passes (itemTokens items) := by
  induction items with
  | nil => simpa [itemTokens] using passes_nil
  | cons v vs ih =>
    rw [List.forall_mem_cons] at h
    cases vs with
    | nil => simpa [itemTokens] using h.1
    | cons w vs =>
      rw [itemTokens]
      · exact h.1.append rfl (ih h.2)
      · simp

theorem passes_fieldTokens {fields : List (String × Json)} (h : ∀ f ∈ fields, Passes f.2.tokens) :
    Passes (fieldTokens fields) := by
  induction fields with
  | nil => simpa [fieldTokens] using passes_nil
  | cons f fs ih =>
    rw [List.forall_mem_cons] at h
    have hfield : Passes (.scalar (.string f.1) :: .colon :: f.2.tokens) :=
      (passes_scalar (v := .string f.1) trivial).append rfl h.1
    cases fs with
    | nil => simpa [fieldTokens] using hfield
    | cons g fs =>
      rw [fieldTokens]
      · exact hfield.append rfl (ih h.2)
      · simp

theorem Written.passes {n : Nat} {v : Json} (h : Written n v) : Passes v.tokens := by
  induction h with
  | @scalar n v h =>
    have htokens : v.tokens = [.scalar v] := by
      cases v with
      | array | object => exact h.elim
      | _ => simp [tokens]
    rw [htokens]
    exact passes_scalar h
  | array h ih =>
    rw [tokens]
    exact ((passes_itemTokens ih).cons rfl).append rfl passes_nil
  | object h ih =>
    rw [tokens]
    exact ((passes_fieldTokens ih).cons rfl).append rfl passes_nil

/-! ## From tokens to a value -/

/-- The tokens of the value, read inside the containers, complete it. -/
def Completes (v : Json) (frames : List Frame) : Prop :=
  v.tokens.foldlM State.step ⟨.value, frames⟩ = some (State.complete v frames)

section
variable {frames : List Frame}

theorem close_of_length {v : Json} (h : frames.length ≤ State.greatestDepth) :
    State.close v frames = State.complete v frames := by
  simp [State.close, List.drop_eq_nil_of_le h]

/-- A value does not begin with the end of an array. -/
theorem exists_first_tokens (v : Json) : ∃ t ts, v.tokens = t :: ts ∧ t ≠ .closeArray := by
  cases v <;> simp [tokens]

theorem exists_first_itemTokens (v : Json) (vs : List Json) :
    ∃ t ts, itemTokens (v :: vs) = t :: ts ∧ t ≠ .closeArray := by
  obtain ⟨t, ts, htokens, ht⟩ := exists_first_tokens v
  cases vs <;> simp [itemTokens, htokens, ht]

/-- The first item of an array is read like any other: only the end of the array is not. -/
theorem foldlM_arrayStart (v : Json) (vs : List Json) (frames : List Frame) :
    (itemTokens (v :: vs)).foldlM State.step ⟨.arrayStart, frames⟩ =
      (itemTokens (v :: vs)).foldlM State.step ⟨.value, .array [] :: frames⟩ := by
  obtain ⟨t, ts, htokens, ht⟩ := exists_first_itemTokens v vs
  have hstep : State.step ⟨.arrayStart, frames⟩ t = State.step ⟨.value, .array [] :: frames⟩ t := by
    cases t with
    | closeArray => exact absurd rfl ht
    | _ => rfl
  rw [htokens, List.foldlM_cons, List.foldlM_cons, hstep]

/-- The items of an array are put in front of those before it. -/
theorem foldlM_itemTokens {items : List Json} (hne : items ≠ [])
    (h : ∀ v ∈ items, ∀ before, Completes v (.array before :: frames)) (before : List Json) :
    (itemTokens items).foldlM State.step ⟨.value, .array before :: frames⟩ =
      some ⟨.afterItem (items.reverse ++ before), frames⟩ := by
  induction items generalizing before with
  | nil => exact absurd rfl hne
  | cons v vs ih =>
    rw [List.forall_mem_cons] at h
    have hv : v.tokens.foldlM State.step ⟨.value, .array before :: frames⟩ =
      some ⟨.afterItem (v :: before), frames⟩ := h.1 before
    cases vs with
    | nil => simpa [itemTokens] using hv
    | cons w vs =>
      have hrest := ih (List.cons_ne_nil _ _) h.2 (v :: before)
      rw [itemTokens, List.foldlM_append, hv]
      · simpa [State.step] using hrest
      · simp

/-- The first key of an object is read like any other. -/
theorem foldlM_objectStart (f : String × Json) (fs : List (String × Json))
    (frames : List Frame) :
    (fieldTokens (f :: fs)).foldlM State.step ⟨.objectStart, frames⟩ =
      (fieldTokens (f :: fs)).foldlM State.step ⟨.key [], frames⟩ := by
  cases fs <;> simp [fieldTokens, State.step]

/-- The fields of an object are put in front of those before it. -/
theorem foldlM_fieldTokens {fields : List (String × Json)} (hne : fields ≠ [])
    (h : ∀ f ∈ fields, ∀ entries key, Completes f.2 (.field entries key :: frames))
    (entries : Entries) :
    (fieldTokens fields).foldlM State.step ⟨.key entries, frames⟩ =
      some ⟨.afterField ((fields.map fun f => (some f.1, f.2)).reverse ++ entries), frames⟩ := by
  induction fields generalizing entries with
  | nil => exact absurd rfl hne
  | cons f fs ih =>
    rw [List.forall_mem_cons] at h
    have hf : (Token.scalar (.string f.1) :: .colon :: f.2.tokens).foldlM State.step
        ⟨.key entries, frames⟩ = some ⟨.afterField ((some f.1, f.2) :: entries), frames⟩ :=
      h.1 entries (some f.1)
    cases fs with
    | nil => simpa [fieldTokens] using hf
    | cons g fs =>
      have hrest := ih (List.cons_ne_nil _ _) h.2 ((some f.1, f.2) :: entries)
      rw [fieldTokens, List.foldlM_append, hf]
      · simpa [State.step] using hrest
      · simp

theorem objectOf_map_some (fields : List (String × Json)) :
    State.objectOf (fields.map fun f => (some f.1, f.2)).reverse = .object fields := by
  have hall : (fields.map fun f => (some f.1, f.2)).mapM (fun e => e.1.map fun key => (key, e.2)) =
      some fields := by
    induction fields with
    | nil => rfl
    | cons f fs ih => simp [List.mapM_cons, ih]
  simp only [State.objectOf, List.reverse_reverse, hall]

/-- By induction on the value, for all containers around it at once: an item is read inside one
container more. -/
theorem Written.completes {n : Nat} {v : Json} (h : Written n v)
    (hdepth : frames.length + n ≤ State.greatestDepth + 1) : Completes v frames := by
  induction h generalizing frames with
  | @scalar n v h =>
    cases v with
    | array | object | unreadable => exact h.elim
    | _ => simp [Completes, tokens, State.step, State.begin?]
  | @array n items h ih =>
    have hclose (v : Json) : State.close v frames = State.complete v frames :=
      close_of_length (by omega)
    have hitems : ∀ v ∈ items, ∀ before, Completes v (.array before :: frames) :=
      fun v hv before => ih v hv (by simp only [List.length_cons]; omega)
    cases items with
    | nil => simp [Completes, tokens, itemTokens, State.step, State.begin?, hclose]
    | cons v vs =>
      have hfold := foldlM_itemTokens (List.cons_ne_nil v vs) hitems []
      rw [Completes, tokens, List.cons_append, List.foldlM_cons]
      change (itemTokens (v :: vs) ++ [Token.closeArray]).foldlM State.step
        ⟨.arrayStart, frames⟩ = _
      rw [List.foldlM_append, foldlM_arrayStart, hfold]
      simp [State.step, hclose]
  | @object n fields h ih =>
    have hclose (v : Json) : State.close v frames = State.complete v frames :=
      close_of_length (by omega)
    have hfields : ∀ f ∈ fields, ∀ entries key, Completes f.2 (.field entries key :: frames) :=
      fun f hf entries key => ih f hf (by simp only [List.length_cons]; omega)
    cases fields with
    | nil => simp [Completes, tokens, fieldTokens, State.step, State.begin?, hclose]
    | cons f fs =>
      have hfold := foldlM_fieldTokens (List.cons_ne_nil f fs) hfields []
      rw [Completes, tokens, List.cons_append, List.foldlM_cons]
      change (fieldTokens (f :: fs) ++ [Token.closeObject]).foldlM State.step
        ⟨.objectStart, frames⟩ = _
      rw [List.foldlM_append, foldlM_objectStart, hfold, List.append_nil]
      change some (State.close (State.objectOf _) frames) = _
      rw [objectOf_map_some, hclose]

end

/-- A value that is not too deep is read back from its text. -/
theorem parse?_compact {n : Nat} {v : Json} (h : Written n v)
    (hn : n ≤ State.greatestDepth + 1) : parse? v.compact = some v := by
  have hfold : v.tokens.foldlM State.step ⟨.value, []⟩ = some (State.complete v []) :=
    h.completes (by simpa using hn)
  rw [parse?, compact, String.toList_ofList, h.passes.readAll?, Option.bind_some, ofTokens?, hfold]
  rfl

end SurveyTables.Json
