import SurveyTables.Report.Assembly

/-!
# A report, cell by cell

Every entry of a report is a function of the data, the settings, one question and one column,
however the rows of the columns are found.

* `ReportOptions.respondents` : the records that a column counts, in the order of the data;
* `ReportOptions.cell` : the entry of a question under a column (`base_cell`: its base is the number
  of respondents);
* `cachedEntries_eq`, `directEntries_eq`, `tabulate_eq` : rows selected once, rows found again for
  each question and rows found by an equation text all give these entries;
* `Report.entryAt?` : the entry at a place of a report; `Report.entryAt?_generate` reads it off the
  question and the column at that place;
* `Report.generate_eq_cells` : the whole report.
-/

namespace SurveyTables

namespace ReportOptions

/-- The records on which the equation of a column holds, or, if checkbox columns are asked for, the
equation on the columns that store the options. -/
def respondents (o : ReportOptions) (d : Dataset) (c : BannerColumn) : List Record :=
  d.records.filter fun r =>
    (if o.translateCheckboxes then (Equation.parse c.equation).toCheckbox d
      else Equation.parse c.equation).holds r

/-- The entry of a question under a column. The boxes of the question take precedence over those of
the run. -/
def cell (o : ReportOptions) (d : Dataset) (q : TabQuestion) (c : BannerColumn) : ColumnEntry :=
  ⟨c, columnStats ⟨q.id, q.kind, q.topBox.getD o.topBox, q.bottomBox.getD o.bottomBox, q.nets⟩
    (o.respondents d c).length (o.respondents d c)⟩

@[simp] theorem base_cell (o : ReportOptions) (d : Dataset) (q : TabQuestion) (c : BannerColumn) :
    (o.cell d q c).stats.base = (o.respondents d c).length :=
  base_columnStats _ _ _

end ReportOptions

/-! ## Three ways to the same entries -/

variable (o : ReportOptions) (b : BannerPlan) (d : Dataset) (q : TabQuestion)

theorem cachedEntries_eq :
    cachedEntries o d (selectedColumns d (resolvedColumns o b d)) q =
      b.columnList.map (o.cell d q) := by
  unfold cachedEntries tabulateSelections selectedColumns resolvedColumns
  rw [List.map_map, List.map_map]
  apply List.map_congr_left
  intro c _
  -- a selection stands for the records it selects, and its size for their number
  simp only [Function.comp_apply, RowSelection.records_select, RowSelection.size_select]
  rfl

theorem directEntries_eq :
    directEntries o d (resolvedColumns o b d) q = b.columnList.map (o.cell d q) := by
  unfold directEntries resolvedColumns
  rw [List.map_map]
  rfl

theorem entriesOf_eq : entriesOf o b d q = b.columnList.map (o.cell d q) := by
  unfold entriesOf
  split
  · exact cachedEntries_eq o b d q
  · exact directEntries_eq o b d q

theorem respondents_eq_filter (h : o.translateCheckboxes = false) (c : BannerColumn) :
    o.respondents d c = d.filter c.equation := by
  rw [Dataset.filter_eq, ReportOptions.respondents, h]
  rfl

theorem tabulate_eq (hc : o.translateCheckboxes = false) (hn : q.nets = []) :
    tabulate q.id q.kind d b.columnList (some (q.topBox.getD o.topBox))
      (some (q.bottomBox.getD o.bottomBox)) = b.columnList.map (o.cell d q) := by
  unfold tabulate
  apply List.map_congr_left
  intro c _
  rw [ReportOptions.cell, respondents_eq_filter o d hc, hn]
  rfl

/-! ## The report -/

namespace Report

def entryAt? (r : Report) (i j : Nat) : Option ColumnEntry :=
  r.tables[i]?.bind fun t => t.entries[j]?

theorem tables_generate (p : TabPlan) :
    (generate o p b d).tables =
      p.questions.map fun q => ⟨q.id, q.title, q.kind, b.columnList.map (o.cell d q)⟩ := by
  unfold generate
  simp only [entriesOf_eq]
  rfl

theorem entryAt?_generate (p : TabPlan) (i j : Nat) :
    (generate o p b d).entryAt? i j =
      p.questions[i]?.bind fun q => b.columnList[j]?.map (o.cell d q) := by
  rw [entryAt?, tables_generate, List.getElem?_map, Option.bind_map]
  congr 1
  funext q
  exact List.getElem?_map

theorem generate_cache_irrel (p : TabPlan) (cache : Bool) :
    generate { o with cacheSelections := cache } p b d = generate o p b d := by
  have ht : (generate { o with cacheSelections := cache } p b d).tables =
      (generate o p b d).tables := by
    rw [tables_generate, tables_generate]
    rfl
  exact congrArg (Report.mk (reportHeading o p b d)) ht

/-- A report has one table for each question, in order, and a table one entry for each column of the
banner, in order; the entry at a place is the cell of its question and its column. So it does not
matter whether selections are kept, nor what else is in the plan and the banner; and without
checkbox columns and nets the table is the one that is tabulated from the equations. -/
theorem generate_eq_cells (p : TabPlan) :
    ((generate o p b d).tables = p.questions.map fun q =>
        ⟨q.id, q.title, q.kind, b.columnList.map (o.cell d q)⟩) ∧
      (∀ t ∈ (generate o p b d).tables, t.entries.length = 1 + b.columnCount) ∧
      (∀ i j, (generate o p b d).entryAt? i j =
        p.questions[i]?.bind fun q => b.columnList[j]?.map (o.cell d q)) ∧
      generate { o with cacheSelections := true } p b d =
        generate { o with cacheSelections := false } p b d ∧
      (∀ (p' : TabPlan) (b' : BannerPlan) (i j i' j' : Nat),
        p'.questions[i']? = p.questions[i]? → b'.columnList[j']? = b.columnList[j]? →
          (generate o p' b' d).entryAt? i' j' = (generate o p b d).entryAt? i j) ∧
      (o.translateCheckboxes = false → ∀ (i : Nat) (q : TabQuestion), p.questions[i]? = some q →
        q.nets = [] → (generate o p b d).tables[i]?.map Table.entries =
          some (tabulate q.id q.kind d b.columnList (some (q.topBox.getD o.topBox))
            (some (q.bottomBox.getD o.bottomBox)))) := by
  refine ⟨tables_generate o b d p, ?_, entryAt?_generate o b d p, ?_, ?_, ?_⟩
  · intro t ht
    rw [tables_generate, List.mem_map] at ht
    obtain ⟨q, -, rfl⟩ := ht
    rw [List.length_map, BannerPlan.length_columnList, Nat.add_comm]
  · exact (generate_cache_irrel o b d p true).trans (generate_cache_irrel o b d p false).symm
  · intro p' b' i j i' j' hq hc
    rw [entryAt?_generate, entryAt?_generate, hq, hc]
  · intro hc i q hq hn
    rw [tables_generate, List.getElem?_map, hq, tabulate_eq o b d q hc hn]
    rfl

/-- A scale under a column for the second of two options, which two of three respondents checked.
They are in the column if checkbox columns are asked for; if they are not, nobody is, and the table
is the one that is tabulated from the equations. -/
theorem generate_eq_cells_checkbox :
    let checkboxes : ReportOptions := ⟨none, [5, 4], [1, 2], true, true, ⟨0, 0⟩⟩
    let plain : ReportOptions := ⟨none, [5, 4], [1, 2], true, false, ⟨0, 0⟩⟩
    let q : TabQuestion := ⟨"Q1", "Liking", .likert, none, some [3], []⟩
    let c : BannerColumn := ⟨"B", "Second brand", "S7=2", some "Brands"⟩
    let b : BannerPlan := ⟨"Main", [⟨"G1", "Brands", [c]⟩]⟩
    let d : Dataset := ⟨["S7r1", "S7r2", "Q1"],
      [Record.ofList [("S7r1", .text "0"), ("S7r2", .text "1"), ("Q1", .text "4")],
        Record.ofList [("S7r1", .text "1"), ("S7r2", .text "0"), ("Q1", .text "5")],
        Record.ofList [("S7r1", .text "1"), ("S7r2", .text "1"), ("Q1", .text "3")]]⟩
    (generate checkboxes ⟨none, [q]⟩ b d).entryAt? 0 1 = some (checkboxes.cell d q c) ∧
      checkboxes.cell d q c = ⟨c, .likert ⟨2, some 50, some 50⟩⟩ ∧
      (generate plain ⟨none, [q]⟩ b d).entryAt? 0 1 = some (plain.cell d q c) ∧
      plain.cell d q c = ⟨c, .likert ⟨0, none, none⟩⟩ ∧
      plain.translateCheckboxes = false ∧ q.nets = [] ∧
      (generate plain ⟨none, [q]⟩ b d).tables[0]?.map Table.entries =
        some (tabulate "Q1" .likert d b.columnList (some [5, 4]) (some [3])) := by
  intro checkboxes plain q c b d
  have hcolumns : b.columnList = [.total, c] := by decide +kernel
  have hentry (o : ReportOptions) :
      (generate o ⟨none, [q]⟩ b d).entryAt? 0 1 = some (o.cell d q c) := by
    rw [(generate_eq_cells o b d ⟨none, [q]⟩).2.2.1, hcolumns]
    rfl
  exact ⟨hentry checkboxes, by decide +kernel, hentry plain, by decide +kernel, rfl, rfl,
    (generate_eq_cells plain b d ⟨none, [q]⟩).2.2.2.2.2 rfl 0 q rfl rfl⟩

end Report

end SurveyTables
