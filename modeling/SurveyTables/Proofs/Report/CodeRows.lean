import Mathlib.Data.List.Forall2
import SurveyTables.Proofs.Sorting
import SurveyTables.Proofs.Table.Tally
import SurveyTables.Report.Export

/-!
# Rows of codes

A table of codes shows the codes of all its columns above its nets, each code once and in the order
of the code points, with one cell for each column.

* `ColumnStats.ShowsCode` : what a column shows for a code;
* `Table.HasCode`, `mem_codes_iff`, `pairwise_codes` : the codes that have a row, and their order;
* `showsCode_codeRow` : the row of a code, cell by cell;
* `length_cells_of_mem_rows` : every row of a table has one cell for each column;
* `ExportRow.isCodeRow`, `filter_isCodeRow_rows` : the rows of codes can be told by their labels;
* `rows_of_codes` : all of this together.
-/

namespace SurveyTables

/-- What a column shows for a code: the share of the first frequency with that code, and zero if no
frequency has it or the column is not one of codes. -/
inductive ColumnStats.ShowsCode (code : String) : ColumnStats → String → Prop
  | share {s : CategoricalStats} {before after : List Frequency} {f : Frequency}
      (found : s.frequencies = before ++ f :: after) (code_eq : f.code = code)
      (first : ∀ g ∈ before, g.code ≠ code) :
      ShowsCode code (.categorical s) (String.ofList (Decimal.fixed f.percent 1))
  | unseen {s : CategoricalStats} (unseen : ∀ f ∈ s.frequencies, f.code ≠ code) :
      ShowsCode code (.categorical s) "0.0"
  | numeric (s : NumericStats) : ShowsCode code (.numeric s) "0.0"
  | likert (s : BoxStats) : ShowsCode code (.likert s) "0.0"

/-- A row of a code, by its label. -/
def ExportRow.isCodeRow (r : ExportRow) : Bool := "Code ".toList.isPrefixOf r.label.toList

namespace Table

/-- The code occurs in the frequencies of a column. -/
def HasCode (t : Table) (code : String) : Prop :=
  ∃ e ∈ t.entries, ∃ s, e.stats = .categorical s ∧ ∃ f ∈ s.frequencies, f.code = code

/-! ## The codes -/

theorem mem_categoricalColumns {t : Table} {s : CategoricalStats} :
    s ∈ t.categoricalColumns ↔ ∃ e ∈ t.entries, e.stats = .categorical s := by
  have hstats (c : ColumnStats) : c.categorical? = some s ↔ c = .categorical s := by
    cases c <;> simp [ColumnStats.categorical?]
  simp only [categoricalColumns, List.mem_filterMap, hstats]

theorem mem_codes_iff {t : Table} {code : String} : code ∈ t.codes ↔ t.HasCode code := by
  rw [codes, Text.mem_sortTexts, List.mem_eraseDups, List.mem_flatMap]
  constructor
  · rintro ⟨s, hs, hcode⟩
    obtain ⟨e, he, hstats⟩ := mem_categoricalColumns.1 hs
    exact ⟨e, he, s, hstats, List.mem_map.1 hcode⟩
  · rintro ⟨e, he, s, hstats, hcode⟩
    exact ⟨s, mem_categoricalColumns.2 ⟨e, he, hstats⟩, List.mem_map.2 hcode⟩

theorem pairwise_codes (t : Table) :
    t.codes.Pairwise fun a b => Text.codePoints a < Text.codePoints b :=
  (Text.pairwise_lt_sortTexts (nodup_eraseDups _)).imp Text.codePoints_lt

/-! ## The cells -/

/-- The cell of a code under a column with these statistics. -/
theorem showsCode_cell (code : String) (c : ColumnStats) : c.ShowsCode code
    (((c.categorical?.bind fun s => s.percent? code).map percentText).getD zeroPercent) := by
  cases c with
  | numeric s => exact .numeric s
  | likert s => exact .likert s
  | categorical s =>
    show ColumnStats.ShowsCode code _ (((s.percent? code).map percentText).getD zeroPercent)
    rw [CategoricalStats.percent?, CategoricalStats.frequency?]
    cases hfind : s.frequencies.find? fun f => decide (f.code = code) with
    | none =>
      refine .unseen fun f hf => ?_
      simpa using List.find?_eq_none.1 hfind f hf
    | some f =>
      obtain ⟨hcode, before, after, hfound, hfirst⟩ := List.find?_eq_some_iff_append.1 hfind
      exact .share hfound (of_decide_eq_true hcode) fun g hg => by simpa using hfirst g hg

theorem showsCode_codeRow (t : Table) (code : String) :
    List.Forall₂ (fun e cell => e.stats.ShowsCode code cell) t.entries (t.codeRow code).cells := by
  rw [codeRow, List.forall₂_map_right_iff, List.forall₂_same]
  exact fun e _ => showsCode_cell code e.stats

theorem length_cells_of_mem_rows {o : WriteOptions} {t : Table} {r : ExportRow}
    (h : r ∈ t.rows o) : r.cells.length = t.entries.length := by
  -- the cells of every row are a map of the columns
  obtain ⟨label, f, rfl⟩ : ∃ label f, r = ⟨label, t.entries.map f⟩ := by
    rcases List.mem_append.1 h with h | h
    · rcases List.mem_append.1 h with h | h
      · split at h
        · exact ⟨_, _, List.mem_singleton.1 h⟩
        · cases h
      · simp only [List.mem_cons, List.not_mem_nil, or_false] at h
        rcases h with h | h | h <;> exact ⟨_, _, h⟩
    · unfold statisticRows at h
      split at h
      · simp only [List.mem_cons, List.not_mem_nil, or_false] at h
        rcases h with h | h | h <;> exact ⟨_, _, h⟩
      · simp only [List.mem_cons, List.not_mem_nil, or_false] at h
        rcases h with h | h <;> exact ⟨_, _, h⟩
      · rcases List.mem_append.1 h with h | h
        · obtain ⟨code, -, rfl⟩ := List.mem_map.1 h
          exact ⟨_, _, rfl⟩
        · obtain ⟨label, -, rfl⟩ := List.mem_map.1 h
          exact ⟨_, _, rfl⟩
  exact List.length_map _

/-! ## The rows -/

theorem isCodeRow_codeRow (t : Table) (code : String) : (t.codeRow code).isCodeRow := by
  rw [ExportRow.isCodeRow, List.isPrefixOf_iff_prefix, codeRow, String.append_assoc,
    String.toList_append]
  exact List.prefix_append _ _

theorem isCodeRow_netRow (t : Table) (label : String) : (t.netRow label).isCodeRow = false := by
  rw [ExportRow.isCodeRow, netRow, String.append_assoc, String.toList_append]
  rfl

theorem map_label_headRows (o : WriteOptions) (t : Table) : (t.headRows o).map ExportRow.label =
    (if o.groupRow then ["Group"] else []) ++ ["Column", "Equation", "Base"] := by
  rw [headRows]
  cases o.groupRow <;> rfl

theorem isCodeRow_of_mem_headRows {o : WriteOptions} {t : Table} {r : ExportRow}
    (h : r ∈ t.headRows o) : r.isCodeRow = false := by
  have hlabel := List.mem_map_of_mem (f := ExportRow.label) h
  rw [map_label_headRows] at hlabel
  have hknown : ∀ label ∈ ["Group", "Column", "Equation", "Base"],
      "Code ".toList.isPrefixOf label.toList = false := by decide
  refine hknown _ ?_
  cases hg : o.groupRow with
  | true => rwa [hg] at hlabel
  | false =>
    rw [hg] at hlabel
    exact List.mem_cons_of_mem _ hlabel

section
variable (o : WriteOptions) {t : Table} (hk : t.kind = .categorical)
include hk

theorem rows_of_categorical :
    t.rows o = t.headRows o ++ t.codes.map t.codeRow ++ t.netLabels.map t.netRow := by
  rw [rows, statisticRows, hk, List.append_assoc]

theorem filter_isCodeRow_rows :
    (t.rows o).filter ExportRow.isCodeRow = t.codes.map t.codeRow := by
  have hhead : (t.headRows o).filter ExportRow.isCodeRow = [] :=
    List.filter_eq_nil_iff.2 fun r hr => by
      rw [isCodeRow_of_mem_headRows hr]
      exact Bool.false_ne_true
  have hcodes : (t.codes.map t.codeRow).filter ExportRow.isCodeRow = t.codes.map t.codeRow := by
    refine List.filter_eq_self.2 fun r hr => ?_
    obtain ⟨code, -, rfl⟩ := List.mem_map.1 hr
    exact t.isCodeRow_codeRow code
  have hnets : (t.netLabels.map t.netRow).filter ExportRow.isCodeRow = [] := by
    refine List.filter_eq_nil_iff.2 fun r hr => ?_
    obtain ⟨label, -, rfl⟩ := List.mem_map.1 hr
    rw [isCodeRow_netRow]
    exact Bool.false_ne_true
  rw [rows_of_categorical o hk, List.filter_append, List.filter_append, hhead, hcodes, hnets,
    List.nil_append, List.append_nil]

/-- A table of codes has one row for each code that occurs under one of its columns, in strictly
ascending order of the code points, below the rows that name the columns and above those of its
nets. The row of a code shows, column by column, the share of the first frequency with that code or
zero, and every row of the table has one cell for each column. -/
theorem rows_of_codes :
    ∃ codes : List String,
      (codes.Pairwise fun a b => Text.codePoints a < Text.codePoints b) ∧
        (∀ code, code ∈ codes ↔ t.HasCode code) ∧
        List.Forall₂ (fun code r => r.label = "Code " ++ code ++ " %" ∧
            List.Forall₂ (fun e cell => e.stats.ShowsCode code cell) t.entries r.cells)
          codes ((t.rows o).filter ExportRow.isCodeRow) ∧
        t.rows o = t.headRows o ++ (t.rows o).filter ExportRow.isCodeRow ++
          t.netLabels.map t.netRow ∧
        (t.headRows o).map ExportRow.label =
          (if o.groupRow then ["Group"] else []) ++ ["Column", "Equation", "Base"] ∧
        ∀ r ∈ t.rows o, r.cells.length = t.entries.length := by
  refine ⟨t.codes, t.pairwise_codes, fun _ => mem_codes_iff, ?_, ?_, t.map_label_headRows o,
    fun _ => length_cells_of_mem_rows⟩
  · rw [filter_isCodeRow_rows o hk, List.forall₂_map_right_iff, List.forall₂_same]
    exact fun code _ => ⟨rfl, t.showsCode_codeRow code⟩
  · rw [filter_isCodeRow_rows o hk]
    exact rows_of_categorical o hk

end

/-- Two columns of codes, of which one lists a code twice, and a column of numbers. -/
theorem rows_of_codes_repeated :
    let column (id : String) : BannerColumn := ⟨id, id, "", none⟩
    let t : Table := ⟨"Q1", "Bought", .categorical,
      [⟨column "A", .categorical ⟨8, [⟨"b", 4, 50⟩, ⟨"10", 1, 12.5⟩, ⟨"b", 1, 12.5⟩], []⟩⟩,
        ⟨column "B", .numeric ⟨3, 0, none, none, none⟩⟩,
        ⟨column "C", .categorical ⟨16, [⟨"2", 1, 6.25⟩, ⟨"b", 3, 18.75⟩], [⟨"Any", 4, 25⟩]⟩⟩]⟩
    t.kind = .categorical ∧ ∃ codes : List String,
      (codes.Pairwise fun a b => Text.codePoints a < Text.codePoints b) ∧
        (∀ code, code ∈ codes ↔ t.HasCode code) ∧
        List.Forall₂ (fun code (r : ExportRow) => r.label = "Code " ++ code ++ " %" ∧
            List.Forall₂ (fun e cell => e.stats.ShowsCode code cell) t.entries r.cells) codes
          [⟨"Code 10 %", ["12.5", "0.0", "0.0"]⟩, ⟨"Code 2 %", ["0.0", "0.0", "6.3"]⟩,
            ⟨"Code b %", ["50.0", "0.0", "18.8"]⟩] := by
  intro column t
  have hcodes : t.codes = ["10", "2", "b"] := by
    show Text.sortTexts ["b", "10", "2"] = _
    simp [Text.sortTexts, List.mergeSort]
  have hrows : (t.rows .standard).filter ExportRow.isCodeRow =
      [⟨"Code 10 %", ["12.5", "0.0", "0.0"]⟩, ⟨"Code 2 %", ["0.0", "0.0", "6.3"]⟩,
        ⟨"Code b %", ["50.0", "0.0", "18.8"]⟩] := by
    rw [filter_isCodeRow_rows .standard rfl, hcodes]
    decide +kernel
  obtain ⟨codes, hordered, hmem, hshown, -⟩ := rows_of_codes .standard (t := t) rfl
  exact ⟨rfl, codes, hordered, hmem, hrows ▸ hshown⟩

end Table

end SurveyTables
