import Mathlib.Data.List.Forall2
import SurveyTables.Proofs.Dataset.Rows
import SurveyTables.Proofs.Sorting
import SurveyTables.Proofs.Table.Tally

/-!
# Datasets as they are loaded

A dataset is loaded from an accepted header or from a text, and grows row by row. It keeps its
header, and each record stands for one row.

* `Record.OfRow` : the record has the codes of the header, as far as the row goes, each with the
  field at its place. So it has no other code (`OfRow.mem_columns`) and no empty text
  (`OfRow.ne_empty_text`);
* `Dataset.Holds` : the codes of the header are different and the records are those of some rows;
* `DatasetSource.load` : the ways to load a dataset, `holds_of_load` : what it holds then;
* `Dataset.offer` : the dataset after a row was offered that may be refused; `Holds.offer` and, for
  rows one after the other, `Holds.offerAll`;
* `Dataset.pairwise_columns_ofRecords` : the header of given records;
* `Dataset.load_and_offer` : all of this together.
-/

namespace SurveyTables

/-! ## Records of rows -/

/-- The record has the first codes of the header, one for each field of the row, and under each of
them the field at its place, where an empty field is no value. -/
structure Record.OfRow (columns fields : List String) (r : Record) : Prop where
  length_le : fields.length ≤ columns.length
  codes : r.codes = columns.take fields.length
  get? : ∀ (i : Nat) (code field : String), columns[i]? = some code → fields[i]? = some field →
    r.get? code = some (if field = "" then .empty else .text field)

namespace Record

theorem mem_codes_of_get? {r : Record} {code : String} {v : Value} (h : r.get? code = some v) :
    code ∈ r.codes := by
  by_contra hno
  have hnone : r.entries.lookup code = none := by
    rw [List.lookup_eq_none_iff]
    rintro e he
    have hne : code ≠ e.1 := fun hce => hno (hce ▸ List.mem_map_of_mem he)
    simpa using hne
  rw [Record.get?, hnone] at h
  cases h

namespace OfRow

variable {columns fields : List String} {r : Record} (h : r.OfRow columns fields) {code : String}
  {v : Value}
include h

theorem exists_of_get? (hv : r.get? code = some v) :
    ∃ (i : Nat) (field : String), columns[i]? = some code ∧ fields[i]? = some field ∧
      v = if field = "" then .empty else .text field := by
  have hmem := mem_codes_of_get? hv
  rw [h.codes] at hmem
  obtain ⟨i, hi⟩ := List.getElem?_of_mem hmem
  have hlt : i < fields.length := by
    by_contra hge
    rw [List.getElem?_take, if_neg hge] at hi
    cases hi
  rw [List.getElem?_take, if_pos hlt] at hi
  have hfield : fields[i]? = some fields[i] := List.getElem?_eq_getElem hlt
  have hget := h.get? i code _ hi hfield
  exact ⟨i, _, hi, hfield, Option.some.inj (hv.symm.trans hget)⟩

theorem mem_columns (hv : r.get? code = some v) : code ∈ columns := by
  obtain ⟨i, _, hi, -⟩ := h.exists_of_get? hv
  exact List.mem_of_getElem? hi

theorem ne_empty_text (hv : r.get? code = some v) : v ≠ .text "" := by
  obtain ⟨_, field, -, -, rfl⟩ := h.exists_of_get? hv
  split
  · exact Value.noConfusion
  · rename_i hne
    exact fun htext => hne (Value.text.inj htext)

end OfRow

end Record

theorem Dataset.ofRow_recordOfRow {columns fields : List String} (h : columns.Nodup)
    (hle : fields.length ≤ columns.length) : (recordOfRow columns fields).OfRow columns fields where
  length_le := hle
  codes := codes_recordOfRow_eq_take h
  get? _ _ _ hcode hfield := get?_recordOfRow h hcode hfield

/-! ## Datasets of rows -/

namespace Dataset

/-- The codes of the header are different, and the records are those of the rows, one for each. -/
structure Holds (rows : List (List String)) (d : Dataset) : Prop where
  distinct : d.columns.Nodup
  records : List.Forall₂ (Record.OfRow d.columns) rows d.records

theorem pushRow_of_length_lt {d : Dataset} {fields : List String}
    (h : d.columns.length < fields.length) :
    d.pushRow fields = .error (.rowTooLong (d.size + 1) d.columns.length fields.length) :=
  if_pos h

theorem pushRow_eq_error_iff {d : Dataset} {fields : List String} :
    (∃ e, d.pushRow fields = .error e) ↔ d.columns.length < fields.length := by
  refine ⟨fun ⟨e, he⟩ => ?_, fun h => ⟨_, pushRow_of_length_lt h⟩⟩
  by_contra hle
  rw [pushRow_of_length_le (Nat.not_lt.1 hle)] at he
  cases he

/-- The dataset after a row was offered; a row that is refused changes nothing. -/
def offer (d : Dataset) (fields : List String) : Dataset :=
  match d.pushRow fields with
  | .ok e => e
  | .error _ => d

theorem offer_of_length_le {d : Dataset} {fields : List String}
    (h : fields.length ≤ d.columns.length) :
    d.offer fields = d.push (recordOfRow d.columns fields) := by
  rw [offer, pushRow_of_length_le h]

theorem offer_of_length_lt {d : Dataset} {fields : List String}
    (h : d.columns.length < fields.length) : d.offer fields = d := by
  rw [offer, pushRow_of_length_lt h]

/-- The dataset after some rows were offered. -/
def offerAll (d : Dataset) (rows : List (List String)) : Dataset := rows.foldl offer d

/-- The row is no longer than the header. -/
def fits (columns fields : List String) : Bool := decide (fields.length ≤ columns.length)

namespace Holds

variable {rows : List (List String)} {d : Dataset} (h : d.Holds rows)
include h

theorem exists_row {r : Record} (hr : r ∈ d.records) :
    ∃ fields ∈ rows, r.OfRow d.columns fields := by
  obtain ⟨hlength, hget⟩ := List.forall₂_iff_get.1 h.records
  obtain ⟨i, hi, rfl⟩ := List.getElem_of_mem hr
  exact ⟨_, List.getElem_mem (hlength ▸ hi), hget i (hlength ▸ hi) hi⟩

theorem push {fields : List String} (hle : fields.length ≤ d.columns.length) :
    (d.push (recordOfRow d.columns fields)).Holds (rows ++ [fields]) where
  distinct := h.distinct
  records := List.rel_append h.records (.cons (ofRow_recordOfRow h.distinct hle) .nil)

theorem offer (fields : List String) :
    (d.offer fields).columns = d.columns ∧
      (d.offer fields).Holds (rows ++ [fields].filter (fits d.columns)) := by
  by_cases hle : fields.length ≤ d.columns.length
  · have hfits : fits d.columns fields := decide_eq_true hle
    rw [offer_of_length_le hle, List.filter_cons_of_pos hfits, List.filter_nil]
    exact ⟨rfl, h.push hle⟩
  · have hfits : ¬ fits d.columns fields := fun hfits => hle (of_decide_eq_true hfits)
    rw [offer_of_length_lt (Nat.not_le.1 hle), List.filter_cons_of_neg hfits, List.filter_nil,
      List.append_nil]
    exact ⟨rfl, h⟩

theorem offerAll (offered : List (List String)) :
    (d.offerAll offered).columns = d.columns ∧
      (d.offerAll offered).Holds (rows ++ offered.filter (fits d.columns)) := by
  induction offered generalizing d rows with
  | nil => exact ⟨rfl, (List.append_nil rows).symm ▸ h⟩
  | cons fields offered ih =>
    obtain ⟨hcolumns, hstep⟩ := h.offer fields
    obtain ⟨hrest, hholds⟩ := ih hstep
    rw [hcolumns, List.append_assoc, ← List.filter_append, List.singleton_append] at hholds
    exact ⟨hrest.trans hcolumns, hholds⟩

end Holds

end Dataset

/-! ## Loading -/

theorem Dataset.ofColumns_eq_ok {columns : List String} {d : Dataset}
    (h : ofColumns columns = .ok d) : d.columns = columns ∧ d.Holds [] := by
  unfold ofColumns at h
  split at h
  · cases h
  · rename_i hrepeat
    obtain rfl := Except.ok.inj h
    exact ⟨rfl, (firstRepeat?_eq_none_iff.1 hrepeat).1, .nil⟩

namespace ReadOptions

variable {o : ReadOptions}

theorem header_eq_ok {row : List (List UInt8)} {d : Dataset} (h : o.header row = .ok d) :
    o.fields row = .ok d.columns ∧ d.Holds [] := by
  unfold header at h
  cases hfields : o.fields row with
  | error e =>
    rw [hfields] at h
    cases h
  | ok columns =>
    rw [hfields] at h
    simp only [Except.bind] at h
    split at h
    · cases h
    · cases hcolumns : Dataset.ofColumns columns with
      | error e =>
        rw [hcolumns] at h
        cases h
      | ok header =>
        rw [hcolumns] at h
        obtain rfl := Except.ok.inj h
        obtain ⟨rfl, hholds⟩ := Dataset.ofColumns_eq_ok hcolumns
        exact ⟨rfl, hholds⟩

theorem pushRow_eq_ok {d e : Dataset} {row : List (List UInt8)} (h : o.pushRow d row = .ok e) :
    ∃ fields, o.fields row = .ok fields ∧ fields.length ≤ d.columns.length ∧
      e = d.push (Dataset.recordOfRow d.columns fields) := by
  unfold pushRow at h
  cases hfields : o.fields row with
  | error err =>
    rw [hfields] at h
    cases h
  | ok fields =>
    rw [hfields] at h
    simp only [Except.bind] at h
    by_cases hle : fields.length ≤ d.columns.length
    · rw [Dataset.pushRow_of_length_le hle] at h
      exact ⟨fields, rfl, hle, (Except.ok.inj h).symm⟩
    · rw [Dataset.pushRow_of_length_lt (Nat.not_le.1 hle)] at h
      cases h

theorem holds_foldlM_pushRow {bytes : List (List (List UInt8))} {rows : List (List String)}
    {d e : Dataset} (hd : d.Holds rows) (h : bytes.foldlM o.pushRow d = .ok e) :
    ∃ texts, bytes.mapM o.fields = .ok texts ∧ e.columns = d.columns ∧ e.Holds (rows ++ texts) := by
  induction bytes generalizing d rows with
  | nil =>
    obtain rfl := Except.ok.inj h
    exact ⟨[], rfl, rfl, (List.append_nil rows).symm ▸ hd⟩
  | cons row bytes ih =>
    rw [List.foldlM_cons] at h
    cases hrow : o.pushRow d row with
    | error err =>
      rw [hrow] at h
      cases h
    | ok next =>
      rw [hrow] at h
      obtain ⟨fields, hfields, hle, rfl⟩ := pushRow_eq_ok hrow
      obtain ⟨texts, htexts, hcolumns, hholds⟩ := ih (hd.push hle) h
      refine ⟨fields :: texts, ?_, hcolumns, ?_⟩
      · rw [List.mapM_cons, hfields]
        exact congrArg (Except.map (fields :: ·)) htexts
      · rwa [List.append_assoc, List.singleton_append] at hholds

end ReadOptions

/-- What a dataset is loaded from: a header, to be followed by rows, or a text. -/
inductive DatasetSource where
  | header (columns : List String)
  | text (o : ReadOptions) (bytes : List UInt8)

namespace DatasetSource

def load : DatasetSource → Except ReadError Dataset
  | .header columns => (Dataset.ofColumns columns).mapError .dataset
  | .text o bytes => Dataset.read o bytes

/-- The rows of the source as texts, the header first. -/
def rows : DatasetSource → Except ReadError (List (List String))
  | .header columns => .ok [columns]
  | .text o bytes => (o.dialect.rows (dropByteOrderMark bytes)).mapM o.fields

theorem holds_of_load {s : DatasetSource} {d : Dataset} (h : s.load = .ok d) :
    ∃ loaded, s.rows = .ok (d.columns :: loaded) ∧ d.Holds loaded := by
  cases s with
  | header columns =>
    cases hcolumns : Dataset.ofColumns columns with
    | error e =>
      rw [load, hcolumns] at h
      cases h
    | ok header =>
      rw [load, hcolumns] at h
      obtain rfl := Except.ok.inj h
      obtain ⟨rfl, hholds⟩ := Dataset.ofColumns_eq_ok hcolumns
      exact ⟨[], rfl, hholds⟩
  | text o bytes =>
    rw [load, Dataset.read] at h
    split at h
    · cases h
    · rename_i head rest hrows
      cases hheader : o.header head with
      | error e =>
        rw [hheader] at h
        cases h
      | ok header =>
        rw [hheader] at h
        obtain ⟨hhead, hholds⟩ := ReadOptions.header_eq_ok hheader
        obtain ⟨texts, htexts, hcolumns, hrest⟩ := ReadOptions.holds_foldlM_pushRow hholds h
        refine ⟨texts, ?_, hrest⟩
        rw [rows, hrows, List.mapM_cons, hhead, hcolumns]
        exact congrArg (Except.map (header.columns :: ·)) htexts

end DatasetSource

namespace Dataset

/-! ## Given records -/

theorem pairwise_columns_ofRecords (records : List Record) :
    (ofRecords records).columns.Pairwise (· < ·) :=
  Text.pairwise_lt_sortTexts (nodup_eraseDups _)

theorem mem_columns_ofRecords {records : List Record} {code : String} :
    code ∈ (ofRecords records).columns ↔ ∃ r ∈ records, r.contains code := by
  simp [ofRecords, Text.mem_sortTexts, Record.contains]

/-! ## All together -/

/-- Whatever a dataset is loaded from and whatever rows are offered to it then, its header is that
of the source, without a code twice, and its records are those of the rows of the source and of the
offered rows that are no longer than the header. No record holds another code or an empty text. A
row is refused exactly if it is longer, and then changes nothing. The header of given records lists
their codes in order. -/
theorem load_and_offer :
    (∀ (s : DatasetSource) (d : Dataset), s.load = .ok d →
      ∃ loaded, s.rows = .ok (d.columns :: loaded) ∧ ∀ offered : List (List String),
        let e := d.offerAll offered
        e.columns = d.columns ∧ e.columns.Nodup ∧
          List.Forall₂ (Record.OfRow e.columns) (loaded ++ offered.filter (fits e.columns))
            e.records ∧
          (∀ r ∈ e.records, ∀ code v, r.get? code = some v → code ∈ e.columns ∧ v ≠ .text "") ∧
          ∀ fields : List String,
            ((∃ err, e.pushRow fields = .error err) ↔ e.columns.length < fields.length) ∧
              (e.columns.length < fields.length →
                e.pushRow fields =
                    .error (.rowTooLong (e.size + 1) e.columns.length fields.length) ∧
                  e.offer fields = e) ∧
              (fields.length ≤ e.columns.length →
                ∃ r : Record, r.OfRow e.columns fields ∧ e.pushRow fields = .ok (e.push r))) ∧
    ∀ records : List Record,
      (ofRecords records).records = records ∧ (ofRecords records).columns.Pairwise (· < ·) ∧
        ∀ code, code ∈ (ofRecords records).columns ↔ ∃ r ∈ records, r.contains code := by
  refine ⟨fun s d h => ?_, fun records =>
    ⟨rfl, pairwise_columns_ofRecords records, fun _ => mem_columns_ofRecords⟩⟩
  obtain ⟨loaded, hrows, hholds⟩ := DatasetSource.holds_of_load h
  refine ⟨loaded, hrows, fun offered => ?_⟩
  obtain ⟨hcolumns, he⟩ := hholds.offerAll offered
  refine ⟨hcolumns, he.distinct, ?_, ?_, fun fields => ⟨pushRow_eq_error_iff, ?_, ?_⟩⟩
  · rw [hcolumns]
    exact hcolumns ▸ he.records
  · intro r hr code v hv
    obtain ⟨fields, -, hrow⟩ := he.exists_row hr
    exact ⟨hrow.mem_columns hv, hrow.ne_empty_text hv⟩
  · intro hlt
    exact ⟨pushRow_of_length_lt hlt, offer_of_length_lt hlt⟩
  · intro hle
    exact ⟨_, ofRow_recordOfRow he.distinct hle, pushRow_of_length_le hle⟩

/-- A text of a header and one respondent, with a blank field and no end of the last line; then a
row that is too short and one that is too long. -/
theorem load_and_offer_two_codes :
    let s : DatasetSource := .text .standard [65, 44, 66, 10, 49, 44, 32]
    ∃ d r t, s.load = .ok d ∧ s.rows = .ok [["A", "B"], ["1", ""]] ∧
      (d.offerAll [["2"], ["3", "4", "5"]]).columns = ["A", "B"] ∧
      (d.offerAll [["2"], ["3", "4", "5"]]).records = [r, t] ∧
      r.codes = ["A", "B"] ∧ r.get? "B" = some .empty ∧ t.codes = ["A"] ∧
      t.get? "A" = some (.text "2") ∧
      (d.offerAll [["2"], ["3", "4", "5"]]).pushRow ["6", "7", "8"] =
        .error (.rowTooLong 3 2 3) := by
  intro s
  have hload : s.load = .ok ⟨["A", "B"], [recordOfRow ["A", "B"] ["1", ""]]⟩ := rfl
  have hsource : s.rows = .ok [["A", "B"], ["1", ""]] := rfl
  obtain ⟨loaded, hrows, hoffered⟩ := load_and_offer.1 s _ hload
  obtain ⟨-, rfl⟩ := List.cons.inj (Except.ok.inj (hrows.symm.trans hsource))
  obtain ⟨hcolumns, -, hrecords, -, hnext⟩ := hoffered [["2"], ["3", "4", "5"]]
  rw [hcolumns] at hrecords
  obtain ⟨r, _, hr, hrest, hlist⟩ := List.forall₂_cons_left_iff.1 hrecords
  obtain ⟨t, _, ht, hnil, rfl⟩ := List.forall₂_cons_left_iff.1 hrest
  obtain rfl := List.forall₂_nil_left_iff.1 hnil
  have herror := ((hnext ["6", "7", "8"]).2.1 (by rw [hcolumns]; decide)).1
  rw [size, hlist, hcolumns] at herror
  exact ⟨_, r, t, hload, hsource, hcolumns, hlist, hr.codes, hr.get? 1 _ _ rfl rfl, ht.codes,
    ht.get? 0 _ _ rfl rfl, herror⟩

end Dataset

end SurveyTables
