import SurveyTables.Net.Draft
import SurveyTables.Proofs.Net.Problems
import SurveyTables.Proofs.Table.Tally

/-!
# Drafts that become nets

* `NetProblem.isInvalidCodes` : the one fault that depends on the codes on offer;
  `NetDraft.filter_problems` : the other faults of a draft do not;
* `Net.Tidy` : the nets that drafts become, in the form in which they are stored;
* `NetDraft.Describes` : the net that the fields of a draft describe, the only one that it can become
  (`NetDraft.describes_of_toNet`);
* `NetDraft.toNet_of_faultless`, `NetDraft.toNet_of_fault` : a draft without such faults becomes a
  tidy net, which is faulty for the codes on offer just if the draft is; any other is refused with
  its faults;
* `NetDraft.toNet_agrees` : all of this together.
-/

namespace SurveyTables

/-! ## Faults that do not depend on the codes on offer -/

/-- The fault of having codes that the question does not offer. -/
def NetProblem.isInvalidCodes : NetProblem → Bool
  | .invalidCodes _ => true
  | _ => false

theorem filter_codesProblems (valid codes : List String) :
    (codesProblems (some valid) codes).filter (fun p => !p.isInvalidCodes) =
      codesProblems none codes := by
  have hempty : (emptyProblems codes).filter (fun p => !p.isInvalidCodes) =
      emptyProblems codes := by
    unfold emptyProblems
    split <;> rfl
  have hinvalid : (invalidProblems valid codes).filter (fun p => !p.isInvalidCodes) = [] := by
    simp only [invalidProblems]
    split <;> rfl
  show (emptyProblems codes ++ invalidProblems valid codes).filter _ = emptyProblems codes ++ []
  rw [List.filter_append, hempty, hinvalid]

theorem isInvalidCodes_of_mem_rangeProblems {lower upper : Option Float} {op : RangeOperator}
    {p : NetProblem} (h : p ∈ rangeProblems lower op upper) : p.isInvalidCodes = false := by
  rcases List.mem_append.1 h with h | h
  · split at h
    · rw [List.mem_singleton.1 h]
      rfl
    · cases h
  · split at h
    · unfold upperProblems at h
      split at h
      · rw [List.mem_singleton.1 h]
        rfl
      · split at h
        · rw [List.mem_singleton.1 h]
          rfl
        · cases h
    · cases h

/-! ## Tidy nets -/

/-- A net as it is stored: codes without repetition, or values in order and none that is not
needed; and no empty label. -/
inductive Net.Tidy : Net → Prop
  | codes (n : CodesNet) (ne_nil : n.codes ≠ []) (distinct : n.codes.Nodup)
      (label : n.label ≠ some "") : Tidy (.codes n)
  | range (n : RangeNet) (wellFormed : n.wellFormed)
      (upper : n.value2.isSome ↔ n.operator = .between) (label : n.label ≠ some "") :
      Tidy (.range n)

theorem labelGiven_ne (label : Option String) : labelGiven label ≠ some "" := by
  intro h
  have hne := (Option.filter_eq_some_iff.1 h).2
  cases hne

theorem CodesNet.tidy_make {codes : List String} (h : codes ≠ []) (label : Option String) :
    (Net.codes (make label codes)).Tidy := by
  obtain ⟨c, hc⟩ := List.exists_mem_of_ne_nil codes h
  exact .codes _ (List.ne_nil_of_mem (List.mem_eraseDups.2 hc)) (nodup_eraseDups codes)
    (labelGiven_ne label)

theorem CodesNet.problems_make (label : Option String) (valid codes : List String) :
    (Net.codes (make label codes)).problems valid = [] ↔ codesProblems (some valid) codes = [] := by
  have hnil : codes.eraseDups ≠ [] ↔ codes ≠ [] := by
    cases codes <;> simp [List.eraseDups_cons]
  show codesProblems (some valid) codes.eraseDups = [] ↔ _
  rw [codesProblems_eq_nil_iff, codesProblems_eq_nil_iff, hnil]
  simp only [List.mem_eraseDups]

theorem RangeNet.wellFormed_make {op : RangeOperator} {x : Float} {upper : Option Float}
    (label : Option String) (h : wellFormed ⟨label, op, x, upper⟩) :
    (make label op x upper).wellFormed := by
  unfold make
  cases op with
  | between => exact h
  | _ => exact h

theorem RangeNet.tidy_make {op : RangeOperator} {x : Float} {upper : Option Float}
    (label : Option String) (h : wellFormed ⟨label, op, x, upper⟩) :
    (Net.range (make label op x upper)).Tidy := by
  refine .range _ (wellFormed_make label h) ?_ (labelGiven_ne label)
  cases op with
  | between =>
    cases upper with
    | none => simp [wellFormed, RangeOperator.needsUpper] at h
    | some y => simp [make, RangeOperator.needsUpper]
  | _ => simp [make, RangeOperator.needsUpper]

/-! ## Drafts -/

theorem labelGiven_eq_some_iff {label : Option String} {l : String} :
    labelGiven label = some l ↔ label = some l ∧ l ≠ "" := by
  rw [labelGiven, Option.filter_eq_some_iff, bne_iff_ne]

theorem RangeOperator.symbol_of_ofSymbol? {s : String} {op : RangeOperator}
    (h : ofSymbol? s = some op) : op.symbol = Text.trimmed s := by
  unfold ofSymbol? ofExactSymbol? at h
  have hfound := List.find?_some h
  exact of_decide_eq_true hfound

/-- The net is of the kind that the draft names and has its label, if that is not empty. A net of
codes has the codes that are not missing, each once, as texts. A range has the bound with the symbol
that is given, or is between two values if none is given; it has the first number, and the second
where it is needed. -/
inductive NetDraft.Describes (d : NetDraft) : Net → Prop
  | codes (n : CodesNet) (kind : d.kind.map Text.trimmed = some "codes")
      (label : ∀ l, n.label = some l ↔ d.label = some l ∧ l ≠ "")
      (codes : n.codes =
        (((d.codes.getD []).filter fun v => !v.isMissing).map Value.display).eraseDups) :
      Describes d (.codes n)
  | range (n : RangeNet) (kind : d.kind.map Text.trimmed = some "range")
      (label : ∀ l, n.label = some l ↔ d.label = some l ∧ l ≠ "")
      (operator : if d.operator.getD "" = "" then n.operator = .between
        else n.operator.symbol = Text.trimmed (d.operator.getD ""))
      (lower : d.value1.bind Value.number? = some n.value1)
      (upper : n.value2 =
        if n.operator = .between then d.value2.bind Value.number? else none) :
      Describes d (.range n)

namespace NetDraft
variable {d : NetDraft}

theorem kind_of_kind? {k : NetKind} (h : d.kind? = some k) :
    d.kind.map Text.trimmed = some (match k with | .codes => "codes" | .range => "range") := by
  unfold kind? at h
  split at h
  · obtain rfl := Option.some.inj h
    assumption
  · obtain rfl := Option.some.inj h
    assumption
  · cases h

theorem rangeOperator_eq_ok {op : RangeOperator} (h : d.rangeOperator = .ok op) :
    if d.operator.getD "" = "" then op = .between
    else op.symbol = Text.trimmed (d.operator.getD "") := by
  unfold rangeOperator at h
  split at h
  · rename_i hempty
    rw [if_pos hempty]
    exact (Except.ok.inj h).symm
  · rename_i hempty
    rw [if_neg hempty]
    split at h
    · rename_i hop
      obtain rfl := Except.ok.inj h
      exact RangeOperator.symbol_of_ofSymbol? hop
    · cases h

theorem describes_of_toRange {n : Net} (hk : d.kind? = some .range) (h : d.toRange = .ok n) :
    d.Describes n := by
  unfold toRange at h
  split at h
  · cases h
  · cases h
  · rename_i op x hop hx
    obtain rfl := Except.ok.inj h
    refine .range _ (kind_of_kind? hk) (fun l => labelGiven_eq_some_iff) (rangeOperator_eq_ok hop)
      hx ?_
    cases op <;> rfl

/-- What a draft becomes is what its fields describe. -/
theorem describes_of_toNet {n : Net} (h : d.toNet = .ok n) : d.Describes n := by
  unfold toNet at h
  split at h
  · rename_i hfaultless
    cases hk : d.kind? with
    | none =>
      rw [problemsFor, hk] at hfaultless
      cases hfaultless
    | some k =>
      rw [hk] at h
      cases k with
      | codes =>
        obtain rfl := Except.ok.inj h
        exact .codes _ (kind_of_kind? hk) (fun l => labelGiven_eq_some_iff) rfl
      | range => exact describes_of_toRange hk h
  · cases h

theorem isInvalidCodes_of_rangeOperator {p : NetProblem} (h : d.rangeOperator = .error p) :
    p.isInvalidCodes = false := by
  unfold rangeOperator at h
  split at h
  · cases h
  · split at h
    · cases h
    · cases h
      rfl

/-- Without the fault of codes that are not on offer, the faults are those that the draft has
whatever is on offer. -/
theorem filter_problems (d : NetDraft) (valid : List String) :
    (d.problems valid).filter (fun p => !p.isInvalidCodes) = d.problemsFor none := by
  unfold problems problemsFor
  cases d.kind? with
  | none => rfl
  | some kind =>
    cases kind with
    | codes => exact filter_codesProblems valid d.codeTexts
    | range =>
      rw [List.filter_eq_self]
      intro p hp
      cases hop : d.rangeOperator with
      | ok op =>
        rw [hop] at hp
        rw [isInvalidCodes_of_mem_rangeProblems hp]
        rfl
      | error q =>
        rw [hop] at hp
        rw [List.mem_singleton.1 hp, isInvalidCodes_of_rangeOperator hop]
        rfl

theorem problemsFor_codes (hk : d.kind? = some .codes) (valid : Option (List String)) :
    d.problemsFor valid = codesProblems valid d.codeTexts := by
  rw [problemsFor, hk]

theorem problemsFor_range {op : RangeOperator} (hk : d.kind? = some .range)
    (hop : d.rangeOperator = .ok op) (valid : Option (List String)) :
    d.problemsFor valid =
      rangeProblems (d.value1.bind Value.number?) op (d.value2.bind Value.number?) := by
  rw [problemsFor, hk, hop]

theorem toNet_of_fault (h : d.problemsFor none ≠ []) :
    d.toNet = .error (.invalidDraft (d.problemsFor none)) := by
  rw [toNet, if_neg (by simpa using h)]

/-- The errors that are left for the conversion itself do not come up. -/
theorem toNet_of_faultless (h : d.problemsFor none = []) :
    ∃ n, d.toNet = .ok n ∧ n.Tidy ∧ ∀ valid, n.problems valid = [] ↔ d.problems valid = [] := by
  have hfaultless : (d.problemsFor none).isEmpty := by rw [h]; rfl
  rw [toNet, if_pos hfaultless]
  cases hk : d.kind? with
  | none =>
    rw [problemsFor, hk] at h
    cases h
  | some kind =>
    cases kind with
    | codes =>
      rw [problemsFor_codes hk] at h
      have hne : d.codeTexts ≠ [] := emptyProblems_eq_nil_iff.1 (List.append_eq_nil_iff.1 h).1
      refine ⟨.codes (CodesNet.make d.label d.codeTexts), rfl, CodesNet.tidy_make hne d.label,
        fun valid => ?_⟩
      rw [CodesNet.problems_make, problems, problemsFor_codes hk]
    | range =>
      cases hop : d.rangeOperator with
      | error p =>
        rw [problemsFor, hk, hop] at h
        cases h
      | ok op =>
        have hproblems := problemsFor_range hk hop
        rw [hproblems] at h
        obtain ⟨x, hx, hw⟩ := (rangeProblems_eq_nil_iff d.label).1 h
        refine ⟨.range (RangeNet.make d.label op x (d.value2.bind Value.number?)), ?_,
          RangeNet.tidy_make d.label hw, fun valid => ?_⟩
        · show d.toRange = _
          rw [toRange, hop, hx]
        · have hnet := (rangeProblems_eq_nil_iff (labelGiven d.label)).2
            ⟨x, rfl, RangeNet.wellFormed_make d.label hw⟩
          exact iff_of_true hnet ((hproblems (some valid)).trans h)

theorem toNet_eq_error_iff {e : NetError} :
    d.toNet = .error e ↔ d.problemsFor none ≠ [] ∧ e = .invalidDraft (d.problemsFor none) := by
  by_cases h : d.problemsFor none = []
  · obtain ⟨n, hn, -⟩ := toNet_of_faultless h
    simp [hn, h]
  · simp [toNet_of_fault h, h, eq_comm]

theorem problemsFor_ne_nil_iff (d : NetDraft) (valid : List String) :
    d.problemsFor none ≠ [] ↔ ∃ p ∈ d.problems valid, p.isInvalidCodes = false := by
  rw [← d.filter_problems valid, Ne, List.filter_eq_nil_iff]
  simp

/-- A draft has no fault if and only if it becomes a net without one. It is refused if and only if
it has a fault besides codes that are not on offer, with all of these faults, and otherwise becomes
the tidy net that it describes. -/
theorem toNet_agrees (d : NetDraft) :
    (∀ valid, d.problems valid = [] ↔ ∃ n, d.toNet = .ok n ∧ n.problems valid = []) ∧
      (∀ valid, (∃ e, d.toNet = .error e) ↔ ∃ p ∈ d.problems valid, p.isInvalidCodes = false) ∧
      (∀ valid e, d.toNet = .error e →
        e = .invalidDraft ((d.problems valid).filter fun p => !p.isInvalidCodes)) ∧
      ∀ n, d.toNet = .ok n → n.Tidy ∧ d.Describes n := by
  refine ⟨fun valid => ?_, fun valid => ?_, fun valid e he => ?_, fun n hn => ?_⟩
  · by_cases h : d.problemsFor none = []
    · obtain ⟨n, hn, -, hproblems⟩ := toNet_of_faultless h
      constructor
      · exact fun hd => ⟨n, hn, (hproblems valid).2 hd⟩
      · rintro ⟨m, hm, hnone⟩
        obtain rfl := Except.ok.inj (hn.symm.trans hm)
        exact (hproblems valid).1 hnone
    · constructor
      · intro hd
        rw [← d.filter_problems valid, hd] at h
        exact absurd rfl h
      · rintro ⟨m, hm, -⟩
        rw [toNet_of_fault h] at hm
        cases hm
  · rw [← problemsFor_ne_nil_iff]
    constructor
    · rintro ⟨e, he⟩
      exact (toNet_eq_error_iff.1 he).1
    · exact fun h => ⟨_, toNet_of_fault h⟩
  · rw [d.filter_problems valid]
    exact (toNet_eq_error_iff.1 he).2
  · by_cases h : d.problemsFor none = []
    · obtain ⟨m, hm, htidy, -⟩ := toNet_of_faultless h
      obtain rfl := Except.ok.inj (hm.symm.trans hn)
      exact ⟨htidy, describes_of_toNet hm⟩
    · rw [toNet_of_fault h] at hn
      cases hn

/-- A range with a number as a text and a list with a code that is not on offer become nets, and a
draft with an unknown symbol does not. -/
theorem toNet_agrees_three :
    let range : NetDraft :=
      ⟨some " range ", some "", none, some " <= ", some (.text " 18 "), some (.number 34)⟩
    let list : NetDraft :=
      ⟨some "codes", some "Some", some [.number 1, .empty, .text "1", .text "2"], none, none, none⟩
    let unknown : NetDraft := ⟨some "range", none, none, some "~", none, none⟩
    range.toNet = .ok (.range ⟨none, .lessEqual, 18, none⟩) ∧
      range.Describes (.range ⟨none, .lessEqual, 18, none⟩) ∧
      list.toNet = .ok (.codes ⟨some "Some", ["1", "2"]⟩) ∧
      (Net.codes ⟨some "Some", ["1", "2"]⟩).Tidy ∧ list.problems ["1"] ≠ [] ∧
      ¬ (∃ n, list.toNet = .ok n ∧ n.problems ["1"] = []) ∧
      unknown.toNet = .error (.invalidDraft [.unknownOperator "~"]) ∧
      ∃ p ∈ unknown.problems [], p.isInvalidCodes = false := by
  intro range list unknown
  have hrange : range.toNet = .ok (.range ⟨none, .lessEqual, 18, none⟩) := by decide +kernel
  have hlist : list.toNet = .ok (.codes ⟨some "Some", ["1", "2"]⟩) := by decide +kernel
  have hfaulty : list.problems ["1"] ≠ [] := by decide +kernel
  have hunknown : unknown.toNet = .error (.invalidDraft [.unknownOperator "~"]) := by
    decide +kernel
  exact ⟨hrange, ((toNet_agrees range).2.2.2 _ hrange).2, hlist,
    ((toNet_agrees list).2.2.2 _ hlist).1, hfaulty,
    fun h => hfaulty (((toNet_agrees list).1 ["1"]).2 h), hunknown,
    ((toNet_agrees unknown).2.1 []).1 ⟨_, hunknown⟩⟩

end NetDraft

end SurveyTables
