import Mathlib.Data.List.Dedup
import Mathlib.Data.List.Induction
import Mathlib.Data.List.Nodup
import SurveyTables.Table.Tabulation

/-!
# The tally of codes

A tally lists each code once, in the order of first occurrence, with the number of its occurrences.

* `nodup_eraseDups`, `eraseDups_perm` : a list with each element once;
* `tally_eq` : the tally in terms of such a list and `List.count`; `tally_perm` says that the order
  of the answers is seen in the order of the tally and nowhere else;
* `frequencies_categoricalStats`, `nets_categoricalStats` : what a cell says about codes and nets;
  `mem_frequencies_iff` : a code is listed with the number of its occurrences;
* `frequency?_of_perm` : looking a code up does not depend on the order of distinct codes.
-/

namespace SurveyTables

/-! ## Each element once -/

theorem nodup_eraseDups : ∀ l : List String, l.eraseDups.Nodup
  | [] => List.nodup_nil
  | a :: l => by
    rw [List.eraseDups_cons, List.nodup_cons]
    refine ⟨?_, nodup_eraseDups (l.filter fun b => !b == a)⟩
    rw [List.mem_eraseDups, List.mem_filter]
    simp
termination_by l => l.length
decreasing_by exact Nat.lt_succ_of_le (List.length_filter_le _ _)

theorem eraseDups_perm {l l' : List String} (h : ∀ s, s ∈ l ↔ s ∈ l') :
    l.eraseDups.Perm l'.eraseDups := by
  rw [List.perm_ext_iff_of_nodup (nodup_eraseDups l) (nodup_eraseDups l')]
  intro s
  rw [List.mem_eraseDups, List.mem_eraseDups, h s]

theorem eraseDups_perm_dedup (l : List String) : l.eraseDups.Perm l.dedup := by
  rw [List.perm_ext_iff_of_nodup (nodup_eraseDups l) l.nodup_dedup]
  intro s
  rw [List.mem_eraseDups, List.mem_dedup]

theorem eraseDups_append_singleton (l : List String) (s : String) :
    (l ++ [s]).eraseDups = if s ∈ l then l.eraseDups else l.eraseDups ++ [s] := by
  rw [List.eraseDups_append]
  by_cases h : s ∈ l
  · simp [List.removeAll, h]
  · simp [List.removeAll, h, List.eraseDups_cons]

/-! ## The tally -/

/-- Counting one more occurrence changes the number of that code only, and lists it last if it is
new. -/
theorem countCode_map (code : String) (count : String → Nat) (codes : List String)
    (hd : codes.Nodup) :
    countCode code (codes.map fun c => (c, count c)) =
      if code ∈ codes then codes.map fun c => (c, if c = code then count c + 1 else count c)
      else codes.map (fun c => (c, count c)) ++ [(code, 1)] := by
  induction codes with
  | nil => rfl
  | cons c codes ih =>
    obtain ⟨hc, hd⟩ := List.nodup_cons.1 hd
    rw [List.map_cons, countCode]
    by_cases h : c = code
    · subst h
      have hrest : codes.map (fun x => (x, if x = c then count x + 1 else count x)) =
          codes.map fun x => (x, count x) := by
        apply List.map_congr_left
        intro x hx
        rw [if_neg (fun hxc : x = c => hc (hxc ▸ hx))]
      simp [hrest]
    · have h' : code ≠ c := fun hcc => h hcc.symm
      rw [if_neg h, ih hd]
      by_cases hm : code ∈ codes <;> simp [h, h', hm]

/-- The tally: each code that occurs, in the order of first occurrence, with its number. -/
theorem tally_eq (codes : List String) :
    tally codes = codes.eraseDups.map fun c => (c, codes.count c) := by
  induction codes using List.reverseRecOn with
  | nil => rfl
  | append_singleton codes code ih =>
    have hstep : tally (codes ++ [code]) = countCode code (tally codes) := by
      rw [tally, List.foldl_append]
      rfl
    rw [hstep, ih, countCode_map _ _ _ (nodup_eraseDups codes), eraseDups_append_singleton]
    by_cases hm : code ∈ codes
    · rw [if_pos (List.mem_eraseDups.2 hm), if_pos hm]
      apply List.map_congr_left
      intro c _
      by_cases hc : c = code
      · subst hc; simp
      · simp [hc, Ne.symm hc]
    · rw [if_neg (fun h => hm (List.mem_eraseDups.1 h)), if_neg hm, List.map_append]
      congr 1
      · apply List.map_congr_left
        intro c hc
        have hne : code ≠ c := fun h => hm (h ▸ List.mem_eraseDups.1 hc)
        simp [hne]
      · simp [List.count_eq_zero_of_not_mem hm]

theorem tally_perm {codes codes' : List String} (h : codes.Perm codes') :
    (tally codes).Perm (tally codes') := by
  rw [tally_eq, tally_eq]
  have hcount : (fun c => (c, codes.count c)) = fun c => (c, codes'.count c) := by
    funext c
    rw [h.count_eq]
  rw [hcount]
  exact (eraseDups_perm fun s => h.mem_iff).map _

/-! ## What a cell says -/

variable {questionId : String} {nets : List Net} {base : Nat} {records : List Record}

/-- The codes of the answers to a question. -/
def answerCodes (questionId : String) (records : List Record) : List String :=
  (responses questionId records).map Value.display

@[simp] theorem base_categoricalStats :
    (categoricalStats questionId nets base records).base = base := by
  unfold categoricalStats
  split
  · rename_i h
    exact h.symm
  · rfl

theorem frequencies_categoricalStats (hb : base ≠ 0) :
    (categoricalStats questionId nets base records).frequencies =
      (tally (answerCodes questionId records)).map fun c => ⟨c.1, c.2, percentOf base c.2⟩ := by
  rw [categoricalStats, if_neg hb]
  rfl

theorem mem_frequencies_iff (hb : base ≠ 0) {f : Frequency} :
    f ∈ (categoricalStats questionId nets base records).frequencies ↔
      ∃ c ∈ answerCodes questionId records,
        f = ⟨c, (answerCodes questionId records).count c,
          percentOf base ((answerCodes questionId records).count c)⟩ := by
  rw [frequencies_categoricalStats hb, tally_eq, List.map_map, List.mem_map]
  constructor
  · rintro ⟨c, hc, rfl⟩
    exact ⟨c, List.mem_eraseDups.1 hc, rfl⟩
  · rintro ⟨c, hc, rfl⟩
    exact ⟨c, List.mem_eraseDups.2 hc, rfl⟩

theorem nets_categoricalStats (hb : base ≠ 0) :
    (categoricalStats questionId nets base records).nets = nets.map fun n =>
      let count := (responses questionId records).countP n.matchesValue
      ⟨n.reportLabel, count, percentOf base count⟩ := by
  rw [categoricalStats, if_neg hb]

theorem nodup_codes_categoricalStats :
    ((categoricalStats questionId nets base records).frequencies.map Frequency.code).Nodup := by
  by_cases hb : base = 0
  · rw [categoricalStats, if_pos hb]
    exact List.nodup_nil
  · rw [frequencies_categoricalStats hb, tally_eq, List.map_map, List.map_map]
    change ((answerCodes questionId records).eraseDups.map id).Nodup
    rw [List.map_id]
    exact nodup_eraseDups _

theorem frequency?_of_perm {s t : CategoricalStats} (h : s.frequencies.Perm t.frequencies)
    (hd : (s.frequencies.map Frequency.code).Nodup) (code : String) :
    s.frequency? code = t.frequency? code := by
  unfold CategoricalStats.frequency?
  cases hs : s.frequencies.find? fun f => decide (f.code = code) with
  | none =>
    rw [List.find?_eq_none] at hs
    symm
    rw [List.find?_eq_none]
    exact fun f hf => hs f (h.mem_iff.2 hf)
  | some f =>
    have hfc : f.code = code := by simpa using List.find?_some hs
    have hfs := List.mem_of_find?_eq_some hs
    cases ht : t.frequencies.find? fun f => decide (f.code = code) with
    | none =>
      rw [List.find?_eq_none] at ht
      exact absurd (decide_eq_true hfc) (ht f (h.mem_iff.1 hfs))
    | some g =>
      have hgc : g.code = code := by simpa using List.find?_some ht
      have hgs := h.mem_iff.2 (List.mem_of_find?_eq_some ht)
      rw [List.inj_on_of_nodup_map hd hfs hgs (hfc.trans hgc.symm)]

end SurveyTables
