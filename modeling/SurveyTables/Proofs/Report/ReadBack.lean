import SurveyTables.Proofs.Dataset.Rows
import SurveyTables.Proofs.Delimited.Rows
import SurveyTables.Report.Export

/-!
# Exported rows read back

`read_flatMap_exportRowBytes` : the rows of a table are a dataset whose header is the first row,
whatever texts are in the cells and however the dialect separates and quotes them.
-/

namespace SurveyTables.WriteOptions

open Dialect

variable {o : WriteOptions} {head : ExportRow} {rows : List ExportRow} {n : Nat}

theorem flatMap_exportRowBytes (o : WriteOptions) (rows : List ExportRow) :
    rows.flatMap o.exportRowBytes =
      ((rows.map ExportRow.fields).map (·.map utf8Bytes)).flatMap
        (o.dialect.rowBytes o.lineEnd) := by
  rw [List.flatMap_map, List.flatMap_map]
  rfl

theorem isText_exportRowBytes (hd : o.dialect.Proper) (r : ExportRow) :
    IsText (o.exportRowBytes r) := by
  refine isText_rowBytes hd o.lineEnd fun f hf => ?_
  obtain ⟨s, -, rfl⟩ := List.mem_map.1 hf
  exact ⟨s, rfl⟩

theorem rows_flatMap_exportRowBytes (hd : o.dialect.Proper) (hlabel : ∀ r ∈ rows, r.label ≠ "") :
    o.dialect.rows (rows.flatMap o.exportRowBytes) =
      (rows.map ExportRow.fields).map (·.map utf8Bytes) := by
  rw [flatMap_exportRowBytes]
  refine rows_flatMap_rowBytes hd o.lineEnd fun bytes hbytes => ?_
  obtain ⟨fields, hfields, rfl⟩ := List.mem_map.1 hbytes
  obtain ⟨r, hr, rfl⟩ := List.mem_map.1 hfields
  refine ⟨utf8Bytes r.label, r.cells.map utf8Bytes, fun hnil => hlabel r hr ?_, rfl⟩
  exact utf8Bytes_eq_nil_iff.1 hnil

theorem dropByteOrderMark_flatMap_exportRowBytes (hd : o.dialect.Proper) (hlabel : head.label ≠ "")
    (hmark : head.label.toList.head? ≠ some '\ufeff') :
    dropByteOrderMark ((head :: rows).flatMap o.exportRowBytes) =
      (head :: rows).flatMap o.exportRowBytes := by
  rw [List.flatMap_cons]
  exact dropByteOrderMark_rowBytes hd o.lineEnd hlabel hmark (head.cells.map utf8Bytes) _

/-- Rows of one length with labels, the first without a byte order mark and with all fields
different, are read back: the first as the header, every other as a record that has under each field
of the header its own field at that place, and no value where its field is empty. -/
theorem read_flatMap_exportRowBytes (hd : o.dialect.Proper)
    (hlabel : ∀ r ∈ head :: rows, r.label ≠ "") (hcells : ∀ r ∈ head :: rows, r.cells.length = n)
    (hmark : head.label.toList.head? ≠ some '\ufeff') (hdistinct : head.fields.Nodup) :
    ∃ text d, ofUtf8Bytes? ((head :: rows).flatMap o.exportRowBytes) = some text ∧
      Dataset.read ⟨o.dialect, false⟩ (utf8Bytes text) = .ok d ∧
      d.columns = head.fields ∧ d.size = rows.length ∧
      ∀ (i : Nat) (r : ExportRow), rows[i]? = some r →
        ∃ record, d.records[i]? = some record ∧ record.codes = head.fields ∧
          ∀ (j : Nat) (code field : String),
            head.fields[j]? = some code → r.fields[j]? = some field →
              record.get? code = some (if field = "" then .empty else .text field) := by
  have htext : IsText ((head :: rows).flatMap o.exportRowBytes) := by
    refine isText_flatten fun bytes hbytes => ?_
    obtain ⟨r, -, rfl⟩ := List.mem_map.1 hbytes
    exact isText_exportRowBytes hd r
  obtain ⟨text, hdecode, hbytes⟩ := htext.ofUtf8Bytes?
  have hhead := hlabel head List.mem_cons_self
  have hlength : ∀ r ∈ rows, r.fields.length = head.fields.length := by
    intro r hr
    rw [ExportRow.fields, ExportRow.fields, List.length_cons, List.length_cons,
      hcells r (List.mem_cons_of_mem head hr), hcells head List.mem_cons_self]
  have hread : Dataset.read ⟨o.dialect, false⟩ (utf8Bytes text) =
      .ok ⟨head.fields, (rows.map ExportRow.fields).map (Dataset.recordOfRow head.fields)⟩ := by
    refine Dataset.read_of_rows rfl ?_ hdistinct ⟨head.label, List.mem_cons_self, hhead⟩ ?_
    · rw [hbytes, dropByteOrderMark_flatMap_exportRowBytes hd hhead hmark,
        rows_flatMap_exportRowBytes hd hlabel, List.map_cons]
    · intro fields hfields
      obtain ⟨r, hr, rfl⟩ := List.mem_map.1 hfields
      exact Nat.le_of_eq (hlength r hr)
  refine ⟨text, _, hdecode, hread, rfl, ?_, fun i r hr => ?_⟩
  · rw [Dataset.size, List.length_map, List.length_map]
  · have hrow := hlength r (List.mem_of_getElem? hr)
    refine ⟨Dataset.recordOfRow head.fields r.fields, ?_, Dataset.codes_recordOfRow hdistinct hrow,
      fun j code field hcode hfield => Dataset.get?_recordOfRow hdistinct hcode hfield⟩
    rw [List.getElem?_map, List.getElem?_map, hr]
    rfl

/-- Semicolons and apostrophes, with both and the end of a line in the cells. -/
theorem read_exportRowBytes_apostrophes :
    let o : WriteOptions := ⟨⟨59, 39⟩, .crlf, "", "-", false⟩
    let head : ExportRow := ⟨"Column", ["Women's; all", "Men\r\nonly"]⟩
    let base : ExportRow := ⟨"Base", ["'", ""]⟩
    ∃ text d record, ofUtf8Bytes? ([head, base].flatMap o.exportRowBytes) = some text ∧
      Dataset.read ⟨o.dialect, false⟩ (utf8Bytes text) = .ok d ∧ d.columns = head.fields ∧
      d.records[0]? = some record ∧ record.get? "Column" = some (.text "Base") ∧
      record.get? "Women's; all" = some (.text "'") ∧ record.get? "Men\r\nonly" = some .empty := by
  intro o head base
  have hd : o.dialect.Proper := ⟨by decide, by decide, by decide, by decide, by decide⟩
  have hlabel : ∀ r ∈ [head, base], r.label ≠ "" := by decide
  have hcells : ∀ r ∈ [head, base], r.cells.length = 2 := by decide
  obtain ⟨text, d, hdecode, hread, hcolumns, -, hrecords⟩ :=
    read_flatMap_exportRowBytes hd hlabel hcells (by decide) (by decide)
  obtain ⟨record, hrecord, -, hget⟩ := hrecords 0 base rfl
  exact ⟨text, d, record, hdecode, hread, hcolumns, hrecord, hget 0 _ _ rfl rfl,
    hget 1 _ _ rfl rfl, hget 2 _ _ rfl rfl⟩

end SurveyTables.WriteOptions
