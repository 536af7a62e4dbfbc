import SurveyTables.Proofs.Report.Cells
import SurveyTables.Proofs.Statistics
import SurveyTables.Proofs.Table.Tally

/-!
# Bases and counts of a report

The first column of every table is that of everyone, and no other column counts more.

* `ColumnStats.Within` : a cell is one of the question at hand, agrees with its own base and counts
  no more than another cell; `columnStats_within` : so it is with the cells of fewer and of more
  respondents;
* `ReportOptions.respondents_total`, `respondents_sublist` : the respondents of the first column and
  of any other;
* `Table.Consistent` : a table of a question over a number of respondents;
* `Report.generate_consistent` : every table of a report is one, and the bases of their columns are
  the same.
-/

namespace SurveyTables

/-! ## Cells -/

/-- The first cell belongs to the question, agrees with its own base and counts no more than the
second. -/
inductive ColumnStats.Within (q : TabQuestion) : ColumnStats → ColumnStats → Prop
  | categorical {s t : CategoricalStats} (kind : q.kind = .categorical)
      (base : s.base ≤ t.base)
      (frequencies : ∀ f ∈ s.frequencies, ∃ g ∈ t.frequencies, g.code = f.code ∧ f.count ≤ g.count)
      (nets : 0 < s.base → s.nets.length = q.nets.length)
      (netCounts : ∀ (k : Nat) (n : NetFrequency), s.nets[k]? = some n →
        ∃ m, t.nets[k]? = some m ∧ n.count ≤ m.count)
      (empty : s.base = 0 → s.frequencies = [] ∧ s.nets = []) :
      Within q (.categorical s) (.categorical t)
  | numeric {s t : NumericStats} (kind : q.kind = .numeric) (base : s.base ≤ t.base)
      (count_le_base : s.count ≤ s.base) (count : s.count ≤ t.count)
      (mean : s.mean.isSome = decide (0 < s.count))
      (median : s.median.isSome = decide (0 < s.count))
      (deviation : s.deviation.isSome = decide (0 < s.count)) : Within q (.numeric s) (.numeric t)
  | likert {s t : BoxStats} (kind : q.kind = .likert) (base : s.base ≤ t.base)
      (top : s.top.isSome = decide (0 < s.base))
      (bottom : s.bottom.isSome = decide (0 < s.base)) : Within q (.likert s) (.likert t)

section Cells
variable {l m : List Record} (h : l.Sublist m)
include h

theorem responses_sublist (questionId : String) :
    (responses questionId l).Sublist (responses questionId m) :=
  h.filterMap _

theorem categoricalStats_within {q : TabQuestion} (hk : q.kind = .categorical) :
    (ColumnStats.categorical (categoricalStats q.id q.nets l.length l)).Within q
      (.categorical (categoricalStats q.id q.nets m.length m)) := by
  have hle : l.length ≤ m.length := h.length_le
  have hresponses := responses_sublist h q.id
  by_cases hl : l.length = 0
  · have hempty : categoricalStats q.id q.nets l.length l = ⟨0, [], []⟩ := if_pos hl
    rw [hempty]
    refine .categorical hk (Nat.zero_le _) (fun f hf => ?_) (fun h0 => ?_) (fun k n hn => ?_)
      fun _ => ⟨rfl, rfl⟩
    · cases hf
    · exact absurd h0 (Nat.lt_irrefl 0)
    · cases hn
  · have hm : m.length ≠ 0 := by omega
    refine .categorical hk (by simpa using hle) ?_ (fun _ => ?_) ?_ (fun h0 => ?_)
    · intro f hf
      obtain ⟨c, hc, rfl⟩ := (mem_frequencies_iff hl).1 hf
      have hcodes : (answerCodes q.id l).Sublist (answerCodes q.id m) := hresponses.map _
      exact ⟨_, (mem_frequencies_iff hm).2 ⟨c, hcodes.subset hc, rfl⟩, rfl, hcodes.count_le c⟩
    · rw [nets_categoricalStats hl, List.length_map]
    · intro k n hn
      rw [nets_categoricalStats hl, List.getElem?_map, Option.map_eq_some_iff] at hn
      obtain ⟨net, hnet, rfl⟩ := hn
      have hcount : (responses q.id l).countP net.matchesValue ≤
          (responses q.id m).countP net.matchesValue := hresponses.countP_le
      refine ⟨⟨net.reportLabel, (responses q.id m).countP net.matchesValue,
        percentOf m.length ((responses q.id m).countP net.matchesValue)⟩, ?_, hcount⟩
      rw [nets_categoricalStats hm, List.getElem?_map, hnet]
      rfl
    · exact absurd (by simpa using h0) hl

theorem numericStats_within {q : TabQuestion} (hk : q.kind = .numeric) :
    (ColumnStats.numeric (numericStats q.id l.length l)).Within q
      (.numeric (numericStats q.id m.length m)) := by
  have hle : l.length ≤ m.length := h.length_le
  have hnumbers := (responses_sublist h q.id).filterMap Value.number?
  by_cases hl : l.length = 0
  · have hempty : numericStats q.id l.length l = ⟨0, 0, none, none, none⟩ := if_pos hl
    rw [hempty]
    exact .numeric hk (Nat.zero_le _) (Nat.le_refl _) (Nat.zero_le _) rfl rfl rfl
  · have hm : m.length ≠ 0 := by omega
    have hcount : ((responses q.id l).filterMap Value.number?).length ≤ l.length :=
      Nat.le_trans (List.length_filterMap_le _ _) (List.length_filterMap_le _ _)
    rw [numericStats, numericStats, if_neg hl, if_neg hm]
    exact .numeric hk hle hcount hnumbers.length_le (isSome_mean? _) (isSome_median? _)
      (isSome_deviation? _)

theorem boxStats_within {q : TabQuestion} (hk : q.kind = .likert) {spec : QuestionSpec} :
    (ColumnStats.likert (boxStats spec l.length l)).Within q
      (.likert (boxStats spec m.length m)) := by
  have hle : l.length ≤ m.length := h.length_le
  by_cases hl : l.length = 0
  · have hempty : boxStats spec l.length l = ⟨0, none, none⟩ := if_pos hl
    rw [hempty]
    exact .likert hk (Nat.zero_le _) rfl rfl
  · have hm : m.length ≠ 0 := by omega
    rw [boxStats, boxStats, if_neg hl, if_neg hm]
    exact .likert hk hle (isSome_percent? _ _) (isSome_percent? _ _)

/-- The cell of some of the respondents counts no more than the cell of all of them. -/
theorem columnStats_within (q : TabQuestion) (topBox bottomBox : List Float) :
    (columnStats ⟨q.id, q.kind, topBox, bottomBox, q.nets⟩ l.length l).Within q
      (columnStats ⟨q.id, q.kind, topBox, bottomBox, q.nets⟩ m.length m) := by
  unfold columnStats
  cases hk : q.kind with
  | categorical => exact categoricalStats_within h hk
  | numeric => exact numericStats_within h hk
  | likert => exact boxStats_within h hk

end Cells

/-! ## Columns -/

namespace ReportOptions

variable (o : ReportOptions) (d : Dataset)

theorem respondents_sublist (c : BannerColumn) : (o.respondents d c).Sublist d.records :=
  List.filter_sublist

/-- No setting keeps anyone out of the first column. -/
theorem respondents_total : o.respondents d .total = d.records := by
  have hparse : Equation.parse BannerColumn.total.equation = .all := if_pos (by decide +kernel)
  unfold respondents
  rw [hparse]
  -- `.all` stays `.all` on checkbox columns
  cases o.translateCheckboxes <;> exact List.filter_eq_self.2 fun _ _ => rfl

end ReportOptions

/-! ## Tables -/

/-- The table shows the question over so many respondents: everyone in the first column, and in no
column more than in the first. -/
structure Table.Consistent (q : TabQuestion) (size : Nat) (t : Table) : Prop where
  kind : t.kind = q.kind
  cells : ∃ first rest, t.entries = first :: rest ∧ first.column.id = "TOTAL" ∧
    first.column.equation = "TOTAL" ∧ first.stats.base = size ∧
    ∀ e ∈ t.entries, e.stats.Within q first.stats

namespace Report

/-- A report counts every respondent. Its tables are consistent, with the same bases in all of them,
and no base is larger than the number of respondents. -/
theorem generate_consistent (o : ReportOptions) (p : TabPlan) (b : BannerPlan) (d : Dataset) :
    (generate o p b d).heading.totalBase = d.size ∧
      List.Forall₂ (fun q t => Table.Consistent q d.size t) p.questions
        (generate o p b d).tables ∧
      ∃ bases : List Nat, (∀ n ∈ bases, n ≤ d.size) ∧
        ∀ t ∈ (generate o p b d).tables, (t.entries.map fun e => e.stats.base) = bases := by
  refine ⟨rfl, ?_, b.columnList.map fun c => (o.respondents d c).length, ?_, ?_⟩
  · rw [tables_generate, List.forall₂_map_right_iff]
    refine List.forall₂_same.2 fun q _ => ⟨rfl, ?_⟩
    have htotal := o.respondents_total d
    refine ⟨_, _, rfl, rfl, rfl, ?_, ?_⟩
    · rw [ReportOptions.base_cell, htotal]
      rfl
    · intro e he
      obtain ⟨c, -, rfl⟩ := List.mem_map.1 he
      unfold ReportOptions.cell
      rw [htotal]
      exact columnStats_within (o.respondents_sublist d c) q _ _
  · intro n hn
    obtain ⟨c, -, rfl⟩ := List.mem_map.1 hn
    exact (o.respondents_sublist d c).length_le
  · intro t ht
    rw [tables_generate, List.mem_map] at ht
    obtain ⟨q, -, rfl⟩ := ht
    rw [List.map_map]
    exact List.map_congr_left fun c _ => o.base_cell d q c

/-- Two respondents under three columns, the last of which counts nobody. -/
theorem generate_consistent_gender :
    let o := ReportOptions.standard ⟨0, 0⟩
    let q : TabQuestion := ⟨"S7", "Segment", .categorical, none, none, [.codes ⟨none, ["2"]⟩]⟩
    let b : BannerPlan := ⟨"Main", [⟨"G1", "Gender",
      [⟨"M", "Male", "S1=1", none⟩, ⟨"X", "Other", "S1=9", none⟩]⟩]⟩
    let d : Dataset := ⟨["S1", "S7"], [Record.ofList [("S1", .text "1"), ("S7", .text "2")],
      Record.ofList [("S1", .text "2"), ("S7", .text "2")]]⟩
    ∃ t ∈ (generate o ⟨none, [q]⟩ b d).tables, Table.Consistent q 2 t ∧
      (t.entries.map fun e => e.stats.base) = [2, 1, 0] ∧ ∀ n ∈ [2, 1, 0], n ≤ d.size := by
  intro o q b d
  obtain ⟨-, htables, bases, hle, hbases⟩ := generate_consistent o ⟨none, [q]⟩ b d
  have hcons := List.forall₂_cons_left_iff.1 htables
  obtain ⟨t, ts, ht, -, hts⟩ := hcons
  have hmem : t ∈ (generate o ⟨none, [q]⟩ b d).tables := by
    rw [hts]
    exact List.mem_cons_self
  have hcolumns : (generate o ⟨none, [q]⟩ b d).tables.map
      (fun t => t.entries.map fun e => e.stats.base) = [[2, 1, 0]] := by decide +kernel
  rw [hts, List.map_cons] at hcolumns
  have hthree : (t.entries.map fun e => e.stats.base) = [2, 1, 0] := (List.cons.inj hcolumns).1
  refine ⟨t, hmem, ht, hthree, ?_⟩
  rw [← hthree, hbases t hmem]
  exact hle

end Report

end SurveyTables
