import SurveyTables.Proofs.Report.Cells
import SurveyTables.Proofs.Sorting
import SurveyTables.Proofs.Table.Tally
import SurveyTables.Report.Export

/-!
# The order of the respondents

A report on the same respondents in another order says the same.

* `ColumnStats.SameUpToOrder` : two cells say the same, codes perhaps listed in another order. Mean
  and deviation are left out, because a sum of doubles depends on the order of its terms;
  `columnStats_sameUpToOrder` compares the cells of two orders of the respondents;
* `Table.SameUpToOrder` : the same for tables. Tables without numbers that are so are written as the
  same rows (`Table.SameUpToOrder.rows_eq`), since codes are sorted and nets are in the order of the
  plan;
* `Report.generate_sameUpToOrder` : the two reports, and their texts.
-/

namespace SurveyTables

/-- Two cells say the same, up to the order of codes, mean and deviation. -/
inductive ColumnStats.SameUpToOrder : ColumnStats → ColumnStats → Prop
  | categorical {s t : CategoricalStats} (base : s.base = t.base)
      (distinct : (s.frequencies.map Frequency.code).Nodup)
      (frequencies : s.frequencies.Perm t.frequencies) (nets : s.nets = t.nets) :
      SameUpToOrder (.categorical s) (.categorical t)
  | numeric {s t : NumericStats} (base : s.base = t.base) (count : s.count = t.count)
      (median : s.median = t.median) : SameUpToOrder (.numeric s) (.numeric t)
  | likert (s : BoxStats) : SameUpToOrder (.likert s) (.likert s)

def ColumnEntry.SameUpToOrder (e f : ColumnEntry) : Prop :=
  e.column = f.column ∧ e.stats.SameUpToOrder f.stats

/-- Two tables are of the same question and have entries that say the same. -/
structure Table.SameUpToOrder (t u : Table) : Prop where
  questionId : t.questionId = u.questionId
  questionText : t.questionText = u.questionText
  kind : t.kind = u.kind
  entries : List.Forall₂ ColumnEntry.SameUpToOrder t.entries u.entries

/-! ## Cells -/

theorem responses_perm {l l' : List Record} (h : l.Perm l') (questionId : String) :
    (responses questionId l).Perm (responses questionId l') :=
  h.filterMap _

theorem numbers_perm {l l' : List Record} (h : l.Perm l') (questionId : String) :
    ((responses questionId l).filterMap Value.number?).Perm
      ((responses questionId l').filterMap Value.number?) :=
  (responses_perm h questionId).filterMap _

theorem categoricalStats_sameUpToOrder {l l' : List Record} (h : l.Perm l') (questionId : String)
    (nets : List Net) (base : Nat) :
    (ColumnStats.categorical (categoricalStats questionId nets base l)).SameUpToOrder
      (.categorical (categoricalStats questionId nets base l')) := by
  refine .categorical (by simp) nodup_codes_categoricalStats ?_ ?_
  · by_cases hb : base = 0
    · simp [categoricalStats, hb]
    · rw [frequencies_categoricalStats hb, frequencies_categoricalStats hb]
      exact (tally_perm ((responses_perm h questionId).map _)).map _
  · by_cases hb : base = 0
    · simp [categoricalStats, hb]
    · rw [nets_categoricalStats hb, nets_categoricalStats hb]
      apply List.map_congr_left
      intro n _
      rw [(responses_perm h questionId).countP_eq]

theorem numericStats_sameUpToOrder {l l' : List Record} (h : l.Perm l') (questionId : String)
    (base : Nat) :
    (ColumnStats.numeric (numericStats questionId base l)).SameUpToOrder
      (.numeric (numericStats questionId base l')) := by
  have hp := numbers_perm h questionId
  unfold numericStats
  split
  · exact .numeric rfl rfl rfl
  · exact .numeric rfl hp.length_eq (median?_eq_of_perm hp)

theorem boxStats_eq_of_perm {l l' : List Record} (h : l.Perm l') (spec : QuestionSpec)
    (base : Nat) : boxStats spec base l = boxStats spec base l' := by
  have hp := numbers_perm h spec.questionId
  unfold boxStats
  simp only [hp.countP_eq]

/-- The cells of a question for two orders of the same records say the same. -/
theorem columnStats_sameUpToOrder {l l' : List Record} (h : l.Perm l') (spec : QuestionSpec)
    (base : Nat) : (columnStats spec base l).SameUpToOrder (columnStats spec base l') := by
  unfold columnStats
  cases spec.kind with
  | numeric => exact numericStats_sameUpToOrder h spec.questionId base
  | likert => exact boxStats_eq_of_perm h spec base ▸ .likert _
  | categorical => exact categoricalStats_sameUpToOrder h spec.questionId spec.nets base

namespace ColumnStats.SameUpToOrder

variable {s t : ColumnStats}

theorem base_eq (h : s.SameUpToOrder t) : s.base = t.base := by
  cases h with
  | categorical base _ _ _ => exact base
  | numeric base _ _ => exact base
  | likert s => rfl

theorem likert?_eq (h : s.SameUpToOrder t) : s.likert? = t.likert? := by
  cases h <;> rfl

/-- The share of a code is the same, wherever the code is listed. -/
theorem percent?_eq (h : s.SameUpToOrder t) (code : String) :
    (s.categorical?.bind fun s => s.percent? code) =
      t.categorical?.bind fun s => s.percent? code := by
  cases h with
  | categorical base distinct frequencies nets =>
    change CategoricalStats.percent? _ code = CategoricalStats.percent? _ code
    rw [CategoricalStats.percent?, CategoricalStats.percent?,
      frequency?_of_perm frequencies distinct]
  | numeric => rfl
  | likert => rfl

theorem netPercent?_eq (h : s.SameUpToOrder t) (label : String) :
    (s.categorical?.bind fun s => s.netPercent? label) =
      t.categorical?.bind fun s => s.netPercent? label := by
  cases h with
  | categorical base distinct frequencies nets =>
    change CategoricalStats.netPercent? _ label = CategoricalStats.netPercent? _ label
    rw [CategoricalStats.netPercent?, CategoricalStats.netPercent?, nets]
  | numeric => rfl
  | likert => rfl

end ColumnStats.SameUpToOrder

/-! ## Rows -/

section Entries
variable {l m : List ColumnEntry}

/-- What is read off each entry is the same if the order does not matter for it. -/
theorem map_eq_of_sameUpToOrder {α : Type} (h : List.Forall₂ ColumnEntry.SameUpToOrder l m)
    {f : ColumnEntry → α} (hf : ∀ a b, ColumnEntry.SameUpToOrder a b → f a = f b) :
    l.map f = m.map f := by
  induction h with
  | nil => rfl
  | cons hab _ ih => rw [List.map_cons, List.map_cons, hf _ _ hab, ih]

theorem codes_perm (h : List.Forall₂ ColumnEntry.SameUpToOrder l m) :
    ((l.filterMap fun e => e.stats.categorical?).flatMap fun s =>
        s.frequencies.map Frequency.code).Perm
      ((m.filterMap fun e => e.stats.categorical?).flatMap fun s =>
        s.frequencies.map Frequency.code) := by
  induction h with
  | nil => exact .nil
  | @cons a b l m hab _ ih =>
    obtain ⟨column, stats⟩ := a
    obtain ⟨column', stats'⟩ := b
    cases hab.2 with
    | categorical base distinct frequencies nets => exact (frequencies.map _).append ih
    | numeric base count median => exact ih
    | likert s => exact ih

theorem netLabels_eq (h : List.Forall₂ ColumnEntry.SameUpToOrder l m) :
    ((l.filterMap fun e => e.stats.categorical?).flatMap fun s =>
        s.nets.map NetFrequency.label) =
      (m.filterMap fun e => e.stats.categorical?).flatMap fun s =>
        s.nets.map NetFrequency.label := by
  induction h with
  | nil => rfl
  | @cons a b l m hab _ ih =>
    obtain ⟨column, stats⟩ := a
    obtain ⟨column', stats'⟩ := b
    cases hab.2 with
    | @categorical s t base distinct frequencies nets =>
      have hnets := congrArg (List.map NetFrequency.label) nets
      exact congrArg₂ (· ++ ·) hnets ih
    | numeric base count median => exact ih
    | likert s => exact ih

end Entries

namespace Table.SameUpToOrder

variable {t u : Table}

theorem codes_eq (h : t.SameUpToOrder u) : t.codes = u.codes :=
  Text.sortTexts_eq_of_perm (eraseDups_perm fun _ => (codes_perm h.entries).mem_iff)

theorem netLabels_eq (h : t.SameUpToOrder u) : t.netLabels = u.netLabels :=
  congrArg List.eraseDups (SurveyTables.netLabels_eq h.entries)

theorem headRows_eq (h : t.SameUpToOrder u) (o : WriteOptions) : t.headRows o = u.headRows o := by
  have hgroup := map_eq_of_sameUpToOrder (f := fun e => e.column.group.getD "") h.entries
    fun a b hab => by rw [hab.1]
  have hname := map_eq_of_sameUpToOrder (f := fun e => e.column.name) h.entries
    fun a b hab => by rw [hab.1]
  have hequation := map_eq_of_sameUpToOrder (f := fun e =>
    if e.column.equation = "" then totalEquation else e.column.equation) h.entries
    fun a b hab => by rw [hab.1]
  have hbase := map_eq_of_sameUpToOrder (f := fun e => toString e.stats.base) h.entries
    fun a b hab => by rw [hab.2.base_eq]
  unfold headRows
  rw [hgroup, hname, hequation, hbase]

theorem codeRow_eq (h : t.SameUpToOrder u) (code : String) : t.codeRow code = u.codeRow code := by
  unfold codeRow
  rw [map_eq_of_sameUpToOrder h.entries fun a b hab => by rw [hab.2.percent?_eq]]

theorem netRow_eq (h : t.SameUpToOrder u) (label : String) : t.netRow label = u.netRow label := by
  unfold netRow
  rw [map_eq_of_sameUpToOrder h.entries fun a b hab => by rw [hab.2.netPercent?_eq]]

theorem boxRow_eq (h : t.SameUpToOrder u) (o : WriteOptions) (label : String)
    (get : BoxStats → Option Float) : t.boxRow o label get = u.boxRow o label get := by
  unfold boxRow
  rw [map_eq_of_sameUpToOrder h.entries fun a b hab => by rw [hab.2.likert?_eq]]

/-- Tables without numbers that say the same have the same rows. -/
theorem rows_eq (h : t.SameUpToOrder u) (hk : t.kind ≠ .numeric) (o : WriteOptions) :
    t.rows o = u.rows o := by
  have hstats : t.statisticRows o = u.statisticRows o := by
    unfold statisticRows
    rw [← h.kind]
    cases hkind : t.kind with
    | numeric => exact absurd hkind hk
    | likert => simp only [h.boxRow_eq]
    | categorical =>
      have hcode : t.codeRow = u.codeRow := funext h.codeRow_eq
      have hnet : t.netRow = u.netRow := funext h.netRow_eq
      simp only [h.codes_eq, h.netLabels_eq, hcode, hnet]
  rw [rows, rows, h.headRows_eq, hstats]

theorem bytes_eq (h : t.SameUpToOrder u) (hk : t.kind ≠ .numeric) (o : WriteOptions) :
    t.bytes o = u.bytes o := by
  rw [bytes, bytes, h.questionId, h.questionText, h.rows_eq hk, h.kind]

end Table.SameUpToOrder

/-! ## Reports -/

section Permuted
variable (o : ReportOptions) {d d' : Dataset}

/-- Which column stores an option depends on the header alone. -/
theorem toCheckbox_eq_of_columns (hc : d.columns = d'.columns) (e : Expression) :
    e.toCheckbox d = e.toCheckbox d' := by
  obtain ⟨columns, records⟩ := d
  obtain ⟨columns', records'⟩ := d'
  subst hc
  rfl

theorem respondents_perm (hc : d.columns = d'.columns) (hr : d.records.Perm d'.records)
    (c : BannerColumn) : (o.respondents d c).Perm (o.respondents d' c) := by
  unfold ReportOptions.respondents
  rw [toCheckbox_eq_of_columns hc]
  exact hr.filter _

theorem cell_sameUpToOrder (hc : d.columns = d'.columns) (hr : d.records.Perm d'.records)
    (q : TabQuestion) (c : BannerColumn) : (o.cell d q c).SameUpToOrder (o.cell d' q c) := by
  have hp := respondents_perm o hc hr c
  refine ⟨rfl, ?_⟩
  unfold ReportOptions.cell
  rw [hp.length_eq]
  exact columnStats_sameUpToOrder hp _ _

end Permuted

namespace Report

theorem tables_sameUpToOrder (o : ReportOptions) (p : TabPlan) (b : BannerPlan) {d d' : Dataset}
    (hc : d.columns = d'.columns) (hr : d.records.Perm d'.records) :
    List.Forall₂ Table.SameUpToOrder (generate o p b d).tables (generate o p b d').tables := by
  rw [tables_generate, tables_generate, List.forall₂_map_left_iff, List.forall₂_map_right_iff]
  refine List.forall₂_same.2 fun q _ => ⟨rfl, rfl, rfl, ?_⟩
  rw [List.forall₂_map_left_iff, List.forall₂_map_right_iff]
  exact List.forall₂_same.2 fun c _ => cell_sameUpToOrder o hc hr q c

theorem heading_eq_of_perm (o : ReportOptions) (p : TabPlan) (b : BannerPlan) {d d' : Dataset}
    (hr : d.records.Perm d'.records) :
    (generate o p b d).heading = (generate o p b d').heading := by
  have hs : d.size = d'.size := hr.length_eq
  change reportHeading o p b d = reportHeading o p b d'
  rw [reportHeading, reportHeading, hs]

theorem flatMap_bytes_eq {ts us : List Table} (h : List.Forall₂ Table.SameUpToOrder ts us)
    (hk : ∀ t ∈ ts, t.kind ≠ .numeric) (w : WriteOptions) :
    ts.flatMap (Table.bytes w) = us.flatMap (Table.bytes w) := by
  induction h with
  | nil => rfl
  | cons htu _ ih =>
    rw [List.flatMap_cons, List.flatMap_cons, htu.bytes_eq (hk _ List.mem_cons_self),
      ih fun t ht => hk t (List.mem_cons_of_mem _ ht)]

/-- The reports on two datasets that hold the same respondents in another order have the same
heading, and tables that say the same; without tables of numbers they are the same text. -/
theorem generate_sameUpToOrder (o : ReportOptions) (p : TabPlan) (b : BannerPlan) {d d' : Dataset}
    (hc : d.columns = d'.columns) (hr : d.records.Perm d'.records) :
    (generate o p b d).heading = (generate o p b d').heading ∧
      List.Forall₂ Table.SameUpToOrder (generate o p b d).tables (generate o p b d').tables ∧
      ((∀ q ∈ p.questions, q.kind ≠ .numeric) → ∀ w : WriteOptions,
        (generate o p b d).bytes w = (generate o p b d').bytes w ∧
          (generate o p b d).text? w = (generate o p b d').text? w) := by
  have hh := heading_eq_of_perm o p b hr
  have ht := tables_sameUpToOrder o p b hc hr
  refine ⟨hh, ht, fun hk w => ?_⟩
  have hkinds : ∀ t ∈ (generate o p b d).tables, t.kind ≠ .numeric := by
    intro t hmem
    rw [tables_generate, List.mem_map] at hmem
    obtain ⟨q, hq, rfl⟩ := hmem
    exact hk q hq
  have hbytes : (generate o p b d).bytes w = (generate o p b d').bytes w := by
    rw [bytes, bytes, hh, flatMap_bytes_eq ht hkinds]
  exact ⟨hbytes, congrArg ofUtf8Bytes? hbytes⟩

/-- Two respondents in either order. -/
theorem generate_sameUpToOrder_swap :
    let o := ReportOptions.standard ⟨0, 0⟩
    let q : TabQuestion := ⟨"S7", "Segment", .categorical, none, none,
      [.codes ⟨none, ["2", "3"]⟩]⟩
    let b : BannerPlan := ⟨"Main", [⟨"G1", "Gender", [⟨"M", "Male", "S1=1", none⟩]⟩]⟩
    let r := Record.ofList [("S1", .text "1"), ("S7", .text "2")]
    let r' := Record.ofList [("S1", .text "2"), ("S7", .text "1")]
    let d : Dataset := ⟨["S1", "S7"], [r, r']⟩
    let d' : Dataset := ⟨["S1", "S7"], [r', r]⟩
    d.columns = d'.columns ∧ d.records.Perm d'.records ∧ q.kind ≠ .numeric ∧
      (generate o ⟨none, [q]⟩ b d).text? .standard =
        (generate o ⟨none, [q]⟩ b d').text? .standard := by
  intro o q b r r' d d'
  have hc : d.columns = d'.columns := rfl
  have hr : d.records.Perm d'.records := .swap r' r []
  have hq : q.kind ≠ .numeric := by decide
  have hk : ∀ x ∈ (⟨none, [q]⟩ : TabPlan).questions, x.kind ≠ .numeric := by
    intro x hx
    rw [List.mem_singleton.1 hx]
    exact hq
  have hgen := generate_sameUpToOrder o ⟨none, [q]⟩ b hc hr
  exact ⟨hc, hr, hq, (hgen.2.2 hk .standard).2⟩

end Report

end SurveyTables
