import SurveyTables.Net.Collection
import SurveyTables.Proofs.Net.Problems
import SurveyTables.Proofs.Table.Tally

/-!
# What syncing leaves of a net

A net is checked and synced against the same codes on offer, and both look at it in the same way.

* `CodesNet.kept` : the codes of a net that syncing leaves; `Net.sync?_cases` : what it leaves of
  either kind;
* `Net.tidied` : a net without repeated codes, which is what syncing makes of a net without faults
  (`Net.problems_codes_eq_nil_iff`, `Net.problems_range_eq_nil_iff`);
* `Net.Narrows` : the first net is the second with some codes left out;
* `Net.sync?_agrees` : what is left is such a net and has just the offered answers of the whole.
-/

namespace SurveyTables

theorem eraseDups_sublist : ∀ l : List String, l.eraseDups.Sublist l
  | [] => List.Sublist.slnil
  | a :: l => by
    rw [List.eraseDups_cons]
    exact ((eraseDups_sublist (l.filter fun b => !b == a)).trans List.filter_sublist).cons_cons a
termination_by l => l.length
decreasing_by exact Nat.lt_succ_of_le (List.length_filter_le _ _)

/-! ## The codes that are kept -/

namespace CodesNet

/-- The codes of the net that are on offer, each once. -/
def kept (valid : List String) (n : CodesNet) : List String :=
  (n.codes.filter fun c => valid.contains c).eraseDups

variable {valid : List String} {n : CodesNet}

theorem mem_kept {c : String} : c ∈ n.kept valid ↔ c ∈ n.codes ∧ c ∈ valid := by
  rw [kept, List.mem_eraseDups, List.mem_filter, List.contains_iff_mem]

theorem kept_sublist (valid : List String) (n : CodesNet) : (n.kept valid).Sublist n.codes :=
  (eraseDups_sublist _).trans List.filter_sublist

theorem kept_eq_nil_iff : n.kept valid = [] ↔ ∀ c ∈ n.codes, c ∉ valid := by
  rw [List.eq_nil_iff_forall_not_mem]
  simp only [mem_kept, not_and]

/-- Nothing but repetitions is left out exactly if every code is on offer. -/
theorem kept_eq_eraseDups_iff : n.kept valid = n.codes.eraseDups ↔ ∀ c ∈ n.codes, c ∈ valid := by
  constructor
  · intro h c hc
    rw [← List.mem_eraseDups, ← h] at hc
    exact (mem_kept.1 hc).2
  · intro h
    have hall : (n.codes.filter fun c => valid.contains c) = n.codes :=
      List.filter_eq_self.2 fun c hc => List.contains_iff_mem.2 (h c hc)
    rw [kept, hall]

end CodesNet

namespace Net

variable {valid : List String}

theorem sync?_codes (n : CodesNet) :
    (Net.codes n).sync? valid =
      if n.kept valid = [] then none else some (.codes ⟨n.label, n.kept valid⟩) := by
  simp only [sync?, List.isEmpty_iff]
  rfl

theorem sync?_range (n : RangeNet) :
    (Net.range n).sync? valid = if n.wellFormed then some (.range n) else none := rfl

/-- Of a net of codes the codes on offer are left, if there are any; a well-formed range is left as
it is. -/
theorem sync?_cases {n m : Net} (h : n.sync? valid = some m) :
    (∃ c : CodesNet, n = .codes c ∧ c.kept valid ≠ [] ∧ m = .codes ⟨c.label, c.kept valid⟩) ∨
      ∃ r : RangeNet, n = .range r ∧ r.wellFormed ∧ m = .range r := by
  cases n with
  | codes c =>
    rw [sync?_codes] at h
    split at h
    · cases h
    · rename_i hne
      exact .inl ⟨c, rfl, hne, (Option.some.inj h).symm⟩
  | range r =>
    rw [sync?_range] at h
    split at h
    · rename_i hw
      exact .inr ⟨r, rfl, hw, (Option.some.inj h).symm⟩
    · cases h

/-! ## Nets without faults -/

/-- The net with each of its codes once. -/
def tidied : Net → Net
  | .codes n => .codes ⟨n.label, n.codes.eraseDups⟩
  | .range n => .range n

theorem problems_codes_eq_nil_iff (n : CodesNet) :
    (Net.codes n).problems valid = [] ↔
      (Net.codes n).sync? valid = some (.codes ⟨n.label, n.codes.eraseDups⟩) := by
  refine codesProblems_eq_nil_iff.trans ?_
  rw [sync?_codes, ← CodesNet.kept_eq_eraseDups_iff]
  constructor
  · rintro ⟨hne, hkept⟩
    obtain ⟨c, hc⟩ := List.exists_mem_of_ne_nil _ hne
    rw [hkept, if_neg (List.ne_nil_of_mem (List.mem_eraseDups.2 hc))]
  · intro h
    split at h
    · cases h
    · rename_i hne
      have hkept : n.kept valid = n.codes.eraseDups := by simpa using h
      obtain ⟨c, hc⟩ := List.exists_mem_of_ne_nil _ hne
      exact ⟨List.ne_nil_of_mem (CodesNet.mem_kept.1 hc).1, hkept⟩

theorem problems_range_eq_nil_iff (n : RangeNet) :
    (Net.range n).problems valid = [] ↔ (Net.range n).sync? valid = some (.range n) := by
  have hfaultless : (Net.range n).problems valid = [] ↔ n.wellFormed := by
    refine (rangeProblems_eq_nil_iff n.label).trans ⟨?_, fun h => ⟨_, rfl, h⟩⟩
    rintro ⟨x, hx, h⟩
    obtain rfl := Option.some.inj hx
    exact h
  rw [hfaultless, sync?_range]
  split <;> simp_all

/-! ## The answers of a synced net -/

/-- The net is a range. -/
def isRange : Net → Bool
  | .codes _ => false
  | .range _ => true

/-- The first net is the second, under the same label and of the same kind, with some codes left
out. -/
inductive Narrows : Net → Net → Prop
  | codes {label : Option String} {part whole : List String} (h : part.Sublist whole) :
      Narrows (.codes ⟨label, part⟩) (.codes ⟨label, whole⟩)
  | range (n : RangeNet) : Narrows (.range n) (.range n)

theorem narrows_of_sync? {n m : Net} (h : n.sync? valid = some m) : m.Narrows n := by
  obtain ⟨c, rfl, -, rfl⟩ | ⟨r, rfl, -, rfl⟩ := sync?_cases h
  · exact .codes (c.kept_sublist valid)
  · exact .range r

theorem matchesValue_kept (n : CodesNet) (v : Value) :
    (Net.codes ⟨n.label, n.kept valid⟩).matchesValue v ↔
      (Net.codes n).matchesValue v ∧ v.display ∈ valid := by
  simp only [matchesValue, Bool.and_eq_true, List.contains_iff_mem, CodesNet.mem_kept, and_assoc]

theorem matchesValue_of_sync? {n m : Net} (h : n.sync? valid = some m) (v : Value) :
    m.matchesValue v ↔ n.matchesValue v ∧ (n.isRange ∨ v.display ∈ valid) := by
  obtain ⟨c, rfl, -, rfl⟩ | ⟨r, rfl, -, rfl⟩ := sync?_cases h
  · simp [matchesValue_kept, isRange]
  · simp [isRange]

/-- A net of codes that is dropped has no answer that is on offer. -/
theorem matchesValue_of_sync?_eq_none {n : Net} (hn : n.isRange = false)
    (h : n.sync? valid = none) {v : Value} (hv : v.display ∈ valid) : n.matchesValue v = false := by
  cases n with
  | range n => cases hn
  | codes n =>
    have hkept : n.kept valid = [] := by
      rw [sync?_codes] at h
      by_contra hne
      rw [if_neg hne] at h
      cases h
    rw [Bool.eq_false_iff]
    intro hmatch
    have hcode : v.display ∈ n.codes :=
      List.contains_iff_mem.1 (Bool.and_eq_true_iff.1 hmatch).2
    exact CodesNet.kept_eq_nil_iff.1 hkept _ hcode hv

/-- A net has no fault exactly if syncing leaves it, repeated codes aside. What syncing leaves of a
net has the same label and kind and some of its codes in order, and of the answers of the net those
on offer, or all if it is a range. A net of codes that is dropped has none of them. -/
theorem sync?_agrees (valid : List String) (n : Net) :
    (n.problems valid = [] ↔ n.sync? valid = some n.tidied) ∧
      (∀ m, n.sync? valid = some m → m.Narrows n ∧
        ∀ v : Value, m.matchesValue v ↔ n.matchesValue v ∧ (n.isRange ∨ v.display ∈ valid)) ∧
      (n.isRange = false → n.sync? valid = none →
        ∀ v : Value, v.display ∈ valid → n.matchesValue v = false) := by
  refine ⟨?_, fun m h => ⟨narrows_of_sync? h, matchesValue_of_sync? h⟩,
    fun hn h v hv => matchesValue_of_sync?_eq_none hn h hv⟩
  cases n with
  | codes n => exact problems_codes_eq_nil_iff n
  | range n => exact problems_range_eq_nil_iff n

/-- A box with a repeated code and one that is no longer on offer, a box without any that is, and a
range that needs no second value but has one that is not a number. -/
theorem sync?_agrees_boxes :
    let box : Net := .codes ⟨some "T2B", ["4", "9", "4", "5"]⟩
    let stale : Net := .codes ⟨none, ["9"]⟩
    let adults : Net := .range ⟨none, .atLeast, 18, some (0 / 0)⟩
    box.sync? ["4", "5"] = some (.codes ⟨some "T2B", ["4", "5"]⟩) ∧
      box.problems ["4", "5"] ≠ [] ∧ box.problems ["4", "5", "9"] = [] ∧
      (Net.codes ⟨some "T2B", ["4", "5"]⟩).Narrows box ∧
      stale.sync? ["4", "5"] = none ∧ stale.matchesValue (.number 4) = false ∧
      adults.problems ["4"] = [] := by
  intro box stale adults
  have hbox : box.sync? ["4", "5"] = some (.codes ⟨some "T2B", ["4", "5"]⟩) := by decide +kernel
  have hstale : stale.sync? ["4", "5"] = none := by decide +kernel
  refine ⟨hbox, ?_, (sync?_agrees _ box).1.2 (by decide +kernel),
    ((sync?_agrees _ box).2.1 _ hbox).1, hstale,
    (sync?_agrees _ stale).2.2 rfl hstale (.number 4) (by decide +kernel),
    (sync?_agrees _ adults).1.2 (by decide +kernel)⟩
  intro hnone
  have htidied := (sync?_agrees _ box).1.1 hnone
  rw [hbox] at htidied
  revert htidied
  decide +kernel

end Net

end SurveyTables
