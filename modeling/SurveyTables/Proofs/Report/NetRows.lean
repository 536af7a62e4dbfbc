import SurveyTables.Proofs.Net.Editing
import SurveyTables.Proofs.Report.Bases
import SurveyTables.Report.Export

/-!
# Rows of nets

A table of codes shows its nets below the codes, by label: nets with one label have one row between
them, that of the first. So each net has a row of its own exactly if all labels are different.

* `eraseDups_append_of_subset`, `nodup_of_length_eraseDups` : a list with each element once;
* `ReportOptions.netCell`, `ReportOptions.netRow` : the share of a net under a column, and the row
  of these shares;
* `ReportOptions.netLabels_table` : the labels that a table has rows for;
* `ReportOptions.netRow_table` : the row of a label is that of the first net with it;
* `Report.netRows_generate` : the rows below the codes, in a report.
-/

namespace SurveyTables

/-! ## Each label once -/

theorem eraseDups_append_of_subset {l m : List String} (h : m ⊆ l) :
    (l ++ m).eraseDups = l.eraseDups := by
  have hnone : m.removeAll l = [] := by
    rw [List.removeAll, List.filter_eq_nil_iff]
    intro s hs
    simpa using h hs
  rw [List.eraseDups_append, hnone, List.eraseDups_nil, List.append_nil]

theorem nodup_of_length_eraseDups {l : List String} (h : l.eraseDups.length = l.length) :
    l.Nodup := by
  rw [(eraseDups_perm_dedup l).length_eq] at h
  exact List.dedup_eq_self.1 ((List.dedup_sublist l).eq_of_length h)

/-! ## The nets of a column -/

theorem netPercent?_categoricalStats {questionId : String} {nets : List Net} {base : Nat}
    {records : List Record} (hb : base ≠ 0) (label : String) :
    (categoricalStats questionId nets base records).netPercent? label =
      (nets.find? fun n => decide (n.reportLabel = label)).map fun n =>
        percentOf base ((responses questionId records).countP n.matchesValue) := by
  rw [CategoricalStats.netPercent?, nets_categoricalStats hb, List.find?_map, Option.map_map]
  rfl

namespace ReportOptions

variable (o : ReportOptions) (d : Dataset) (q : TabQuestion)

/-- The share of a net among the respondents of a column, as it is shown. -/
def netCell (n : Net) (c : BannerColumn) : String :=
  if (o.respondents d c).length = 0 then "0.0"
  else percentText (percentOf (o.respondents d c).length
    ((responses q.id (o.respondents d c)).countP n.matchesValue))

/-- The shares of a net under the columns of a banner. -/
def netRow (b : BannerPlan) (n : Net) : ExportRow :=
  ⟨"Net " ++ n.reportLabel ++ " %", b.columnList.map (o.netCell d q n)⟩

/-- The table of a question. -/
def table (b : BannerPlan) : Table := ⟨q.id, q.title, q.kind, b.columnList.map (o.cell d q)⟩

/-- A column of nobody has no nets, any other has all of them. -/
theorem netLabels_cell (c : BannerColumn) :
    (categoricalStats q.id q.nets (o.respondents d c).length (o.respondents d c)).nets.map
        NetFrequency.label =
      if (o.respondents d c).length = 0 then [] else q.nets.map Net.reportLabel := by
  split
  · rename_i h0
    rw [categoricalStats, if_pos h0]
    rfl
  · rename_i h0
    rw [nets_categoricalStats h0, List.map_map]
    rfl

variable {q} (hk : q.kind = .categorical)
include hk

theorem categorical?_cell (c : BannerColumn) :
    (o.cell d q c).stats.categorical? =
      some (categoricalStats q.id q.nets (o.respondents d c).length (o.respondents d c)) := by
  rw [cell, columnStats, hk]
  rfl

theorem netLabels_table (b : BannerPlan) (hd : d.records ≠ []) :
    (o.table d q b).netLabels = (q.nets.map Net.reportLabel).eraseDups := by
  have hcolumns : (o.table d q b).categoricalColumns = b.columnList.map fun c =>
      categoricalStats q.id q.nets (o.respondents d c).length (o.respondents d c) := by
    rw [Table.categoricalColumns, table, List.filterMap_map]
    exact (List.filterMap_congr fun c _ => o.categorical?_cell d hk c).trans
      (congrFun List.filterMap_eq_map _)
  have hfirst : (o.respondents d .total).length ≠ 0 := by
    rw [o.respondents_total d]
    simpa using hd
  rw [Table.netLabels, hcolumns, List.flatMap_map, BannerPlan.columnList, List.flatMap_cons]
  simp only [netLabels_cell, if_neg hfirst]
  -- every column after that of everyone has the same labels or none
  refine eraseDups_append_of_subset fun label hlabel => ?_
  obtain ⟨c, -, hc⟩ := List.mem_flatMap.1 hlabel
  split at hc
  · cases hc
  · exact hc

/-- The row of a label shows the first net with that label. -/
theorem netRow_table (b : BannerPlan) {label : String} {n : Net}
    (hn : q.nets.find? (fun m => decide (m.reportLabel = label)) = some n) :
    (o.table d q b).netRow label = o.netRow d q b n := by
  have hlabel : n.reportLabel = label := by simpa using List.find?_some hn
  subst hlabel
  rw [Table.netRow, netRow, table, List.map_map]
  congr 1
  refine List.map_congr_left fun c _ => ?_
  rw [Function.comp_apply, o.categorical?_cell d hk, Option.bind_some, netCell]
  split
  · rename_i h0
    rw [categoricalStats, if_pos h0]
    rfl
  · rename_i h0
    rw [netPercent?_categoricalStats h0, hn]
    rfl

end ReportOptions

/-! ## The rows of a table -/

theorem find?_label_of_nodup {nets : List Net} (h : (nets.map Net.reportLabel).Nodup) {n : Net}
    (hn : n ∈ nets) : nets.find? (fun m => decide (m.reportLabel = n.reportLabel)) = some n := by
  cases hfind : nets.find? (fun m => decide (m.reportLabel = n.reportLabel)) with
  | none => exact absurd (decide_eq_true rfl) (List.find?_eq_none.1 hfind n hn)
  | some m =>
    have hlabel : m.reportLabel = n.reportLabel := by simpa using List.find?_some hfind
    rw [List.inj_on_of_nodup_map h (List.mem_of_find?_eq_some hfind) hn hlabel]

/-- Under its codes, a table of codes has one row for each label of a net, in the order of the nets,
and the row shows the first net with that label. These are the rows of all nets, in order, if and
only if all labels are different. -/
theorem Report.netRows_generate (o : ReportOptions) (p : TabPlan) (b : BannerPlan) (d : Dataset)
    (hd : d.records ≠ []) (w : WriteOptions) {i : Nat} {q : TabQuestion}
    (hq : p.questions[i]? = some q) (hk : q.kind = .categorical) :
    ∃ t, (generate o p b d).tables[i]? = some t ∧
      t.statisticRows w = t.codes.map t.codeRow ++
        (q.nets.map Net.reportLabel).eraseDups.map t.netRow ∧
      (∀ label n, q.nets.find? (fun m => decide (m.reportLabel = label)) = some n →
        t.netRow label = o.netRow d q b n) ∧
      (t.statisticRows w = t.codes.map t.codeRow ++ q.nets.map (o.netRow d q b) ↔
        (q.nets.map Net.reportLabel).Nodup) := by
  have hrows : (o.table d q b).statisticRows w =
      (o.table d q b).codes.map (o.table d q b).codeRow ++
        (q.nets.map Net.reportLabel).eraseDups.map (o.table d q b).netRow := by
    rw [Table.statisticRows, ← o.netLabels_table d hk b hd]
    have hkind : (o.table d q b).kind = .categorical := hk
    rw [hkind]
  refine ⟨o.table d q b, ?_, hrows, fun label n hn => o.netRow_table d hk b hn, ?_⟩
  · rw [tables_generate, List.getElem?_map, hq]
    rfl
  · rw [hrows, List.append_right_inj]
    constructor
    · intro h
      have hlength := congrArg List.length h
      rw [List.length_map, List.length_map] at hlength
      exact nodup_of_length_eraseDups (hlength.trans (List.length_map _).symm)
    · intro h
      rw [eraseDups_of_nodup h, List.map_map]
      exact List.map_congr_left fun n hn =>
        o.netRow_table d hk b (find?_label_of_nodup h hn)

/-- A range with a label and a code without one, for everyone and for nobody. -/
theorem Report.netRows_generate_ages :
    let o := ReportOptions.standard ⟨0, 0⟩
    let q : TabQuestion := ⟨"AGE", "Age band", .categorical, none, none,
      [.range ⟨some "18-34", .between, 18, some 34⟩, .codes ⟨none, ["70"]⟩]⟩
    let b : BannerPlan := ⟨"B", [⟨"G", "Ages", [⟨"C", "Ninety", "AGE=90", none⟩]⟩]⟩
    let d : Dataset := ⟨["AGE"], [Record.ofList [("AGE", .text "20")],
      Record.ofList [("AGE", .text "30")], Record.ofList [("AGE", .text "70")]]⟩
    d.records ≠ [] ∧ q.kind = .categorical ∧ (q.nets.map Net.reportLabel).Nodup ∧
      ∃ t, (generate o ⟨none, [q]⟩ b d).tables[0]? = some t ∧
        t.statisticRows .standard = t.codes.map t.codeRow ++
          [⟨"Net 18-34 %", ["66.7", "0.0"]⟩, ⟨"Net 70 %", ["33.3", "0.0"]⟩] := by
  intro o q b d
  have hd : d.records ≠ [] := List.cons_ne_nil _ _
  have hlabels : (q.nets.map Net.reportLabel).Nodup := by decide +kernel
  have hnets : q.nets.map (o.netRow d q b) =
      [⟨"Net 18-34 %", ["66.7", "0.0"]⟩, ⟨"Net 70 %", ["33.3", "0.0"]⟩] := by decide +kernel
  obtain ⟨t, ht, -, -, hrows⟩ := netRows_generate o ⟨none, [q]⟩ b d hd .standard (i := 0) rfl rfl
  exact ⟨hd, rfl, hlabels, t, ht, hnets ▸ hrows.2 hlabels⟩

/-- Two nets with one label have one row between them, and the second is not shown. -/
theorem Report.netRows_generate_same_label :
    let o := ReportOptions.standard ⟨0, 0⟩
    let q : TabQuestion := ⟨"Q1", "Bought", .categorical, none, none,
      [.codes ⟨some "Buyers", ["1"]⟩, .codes ⟨some "Buyers", ["2"]⟩]⟩
    let b : BannerPlan := ⟨"B", []⟩
    let d : Dataset := ⟨["Q1"], [Record.ofList [("Q1", .text "1")],
      Record.ofList [("Q1", .text "1")], Record.ofList [("Q1", .text "2")]]⟩
    ∃ t, (generate o ⟨none, [q]⟩ b d).tables = [t] ∧
      t.statisticRows .standard = t.codes.map t.codeRow ++ [⟨"Net Buyers %", ["66.7"]⟩] ∧
      q.nets.map (o.netRow d q b) =
        [⟨"Net Buyers %", ["66.7"]⟩, ⟨"Net Buyers %", ["33.3"]⟩] ∧
      t.statisticRows .standard ≠ t.codes.map t.codeRow ++ q.nets.map (o.netRow d q b) := by
  intro o q b d
  have hshown : (o.table d q b).netLabels.map (o.table d q b).netRow =
      [⟨"Net Buyers %", ["66.7"]⟩] := by decide +kernel
  have hnets : q.nets.map (o.netRow d q b) =
      [⟨"Net Buyers %", ["66.7"]⟩, ⟨"Net Buyers %", ["33.3"]⟩] := by decide +kernel
  have hrows : (o.table d q b).statisticRows .standard =
      (o.table d q b).codes.map (o.table d q b).codeRow ++
        (o.table d q b).netLabels.map (o.table d q b).netRow := rfl
  refine ⟨o.table d q b, tables_generate o b d _, hshown ▸ hrows, hnets, ?_⟩
  rw [hrows, hshown, hnets, Ne, List.append_right_inj]
  decide

end SurveyTables
