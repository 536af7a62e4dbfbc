import SurveyTables.Delimited.Reader

/-!
# Datasets from rows of texts

* `Record.get?_of_mem` : an answer that is held is found, because codes are distinct;
* `Record.entries_ofList` : answers to different codes are all held, in the order given;
* `Dataset.firstRepeat?_eq_none_iff` : a header is accepted if and only if its codes are different;
* `Dataset.codes_recordOfRow_eq_take`, `Dataset.get?_recordOfRow` : the record of a row has the
  codes of the header, as far as the row goes, and under each of them the field at its place;
* `Dataset.read_of_rows` : what is read from a header and rows that are not longer.
-/

namespace SurveyTables

namespace Record

theorem lookup_of_mem {l : List (String × Value)} (h : (l.map Prod.fst).Nodup) {code : String}
    {v : Value} (hmem : (code, v) ∈ l) : l.lookup code = some v := by
  induction l with
  | nil => cases hmem
  | cons e l ih =>
    obtain ⟨k, w⟩ := e
    obtain ⟨hk, hl⟩ := List.nodup_cons.1 h
    rw [lookup_cons]
    obtain heq | hrest := List.mem_cons.1 hmem
    · obtain ⟨rfl, rfl⟩ := Prod.mk.inj heq
      exact if_pos rfl
    · have hne : code ≠ k := by
        rintro rfl
        exact hk (List.mem_map.2 ⟨_, hrest, rfl⟩)
      rw [if_neg hne]
      exact ih hl hrest

theorem get?_of_mem {r : Record} {code : String} {v : Value} (h : (code, v) ∈ r.entries) :
    r.get? code = some v :=
  lookup_of_mem r.distinct h

theorem entries_insert_of_notMem {r : Record} {code : String} (h : code ∉ r.codes) (v : Value) :
    (r.insert code v).entries = r.entries ++ [(code, v)] := by
  unfold insert
  exact congrArg entries (dif_neg h)

theorem entries_foldl_insert {l : List (String × Value)} {r : Record}
    (h : (r.codes ++ l.map Prod.fst).Nodup) :
    (l.foldl (fun r e => r.insert e.1 e.2) r).entries = r.entries ++ l := by
  induction l generalizing r with
  | nil => exact (List.append_nil _).symm
  | cons e l ih =>
    have hnew : e.1 ∉ r.codes := fun hmem =>
      (List.nodup_append.1 h).2.2 e.1 hmem e.1 List.mem_cons_self rfl
    have hentries := entries_insert_of_notMem hnew e.2
    have hcodes : (r.insert e.1 e.2).codes = r.codes ++ [e.1] := by
      rw [codes, hentries, List.map_append]
      rfl
    rw [List.foldl_cons, ih, hentries, List.append_assoc, List.singleton_append]
    rwa [hcodes, List.append_assoc, List.singleton_append]

theorem entries_ofList {l : List (String × Value)} (h : (l.map Prod.fst).Nodup) :
    (ofList l).entries = l :=
  entries_foldl_insert h

end Record

namespace Dataset

theorem firstRepeat?_eq_none_iff {seen l : List String} :
    firstRepeat? seen l = none ↔ l.Nodup ∧ ∀ c ∈ l, c ∉ seen := by
  induction l generalizing seen with
  | nil => simp [firstRepeat?]
  | cons c l ih =>
    rw [firstRepeat?]
    split
    · rename_i hseen
      refine iff_of_false nofun fun h => ?_
      exact h.2 c List.mem_cons_self hseen
    · rename_i hseen
      rw [ih, List.nodup_cons]
      constructor
      · rintro ⟨hnodup, hnew⟩
        refine ⟨⟨fun hc => hnew c hc List.mem_cons_self, hnodup⟩, fun b hb => ?_⟩
        obtain rfl | hb := List.mem_cons.1 hb
        · exact hseen
        · exact fun hmem => hnew b hb (List.mem_cons_of_mem c hmem)
      · rintro ⟨⟨hc, hnodup⟩, hnew⟩
        refine ⟨hnodup, fun b hb hmem => ?_⟩
        obtain rfl | hmem := List.mem_cons.1 hmem
        · exact hc hb
        · exact hnew b (List.mem_cons_of_mem c hb) hmem

theorem ofColumns_of_nodup {columns : List String} (h : columns.Nodup) :
    ofColumns columns = .ok ⟨columns, []⟩ := by
  have hnone : firstRepeat? [] columns = none :=
    firstRepeat?_eq_none_iff.2 ⟨h, fun _ _ => List.not_mem_nil⟩
  rw [ofColumns, hnone]

theorem pushRow_of_length_le {d : Dataset} {fields : List String}
    (h : fields.length ≤ d.columns.length) :
    d.pushRow fields = .ok (d.push (recordOfRow d.columns fields)) :=
  if_neg (Nat.not_lt.2 h)

theorem map_fst_zip_eq_take {α β : Type} (l : List α) (m : List β) :
    (l.zip m).map Prod.fst = l.take m.length := by
  induction l generalizing m with
  | nil => rw [List.zip_nil_left, List.map_nil, List.take_nil]
  | cons a l ih =>
    cases m with
    | nil => rfl
    | cons b m => rw [List.zip_cons_cons, List.map_cons, ih, List.length_cons, List.take_succ_cons]

section
variable {columns fields : List String} (h : columns.Nodup)
include h

theorem entries_recordOfRow :
    (recordOfRow columns fields).entries = columns.zip (fields.map Value.ofField) := by
  refine Record.entries_ofList ?_
  rw [map_fst_zip_eq_take]
  exact h.sublist (List.take_sublist _ _)

/-- A row that is too short leaves out the last codes. -/
theorem codes_recordOfRow_eq_take :
    (recordOfRow columns fields).codes = columns.take fields.length := by
  rw [Record.codes, entries_recordOfRow h, map_fst_zip_eq_take, List.length_map]

/-- A row that is long enough has them all. -/
theorem codes_recordOfRow (hlength : fields.length = columns.length) :
    (recordOfRow columns fields).codes = columns := by
  rw [codes_recordOfRow_eq_take h, hlength, List.take_length]

theorem get?_recordOfRow {j : Nat} {code field : String}
    (hcode : columns[j]? = some code) (hfield : fields[j]? = some field) :
    (recordOfRow columns fields).get? code = some (Value.ofField field) := by
  refine Record.get?_of_mem ?_
  have hvalue : (fields.map Value.ofField)[j]? = some (Value.ofField field) := by
    rw [List.getElem?_map, hfield, Option.map_some]
  rw [entries_recordOfRow h]
  exact List.mem_of_getElem? (List.getElem?_zip_eq_some.2 ⟨hcode, hvalue⟩)

end

end Dataset

namespace ReadOptions

theorem mapM_ofUtf8Bytes? (texts : List String) :
    (texts.map utf8Bytes).mapM ofUtf8Bytes? = some texts := by
  induction texts with
  | nil => rfl
  | cons s texts ih =>
    rw [List.map_cons, List.mapM_cons, ofUtf8Bytes?_utf8Bytes, ih]
    rfl

variable {o : ReadOptions} (ho : o.trim = false)
include ho

theorem fields_map_utf8Bytes (texts : List String) :
    o.fields (texts.map utf8Bytes) = .ok texts := by
  rw [fields, mapM_ofUtf8Bytes?, ho]
  rfl

theorem header_map_utf8Bytes {columns : List String} (hnodup : columns.Nodup)
    (hnonempty : ∃ c ∈ columns, c ≠ "") :
    o.header (columns.map utf8Bytes) = .ok ⟨columns, []⟩ := by
  have hsome : ¬ columns.all (fun c => decide (c = "")) := by
    obtain ⟨c, hc, hne⟩ := hnonempty
    exact fun hall => hne (of_decide_eq_true (List.all_eq_true.1 hall c hc))
  rw [header, fields_map_utf8Bytes ho, Except.bind, if_neg hsome, Dataset.ofColumns_of_nodup hnodup]
  rfl

theorem foldlM_pushRow {d : Dataset} {rows : List (List String)}
    (hlength : ∀ r ∈ rows, r.length ≤ d.columns.length) :
    (rows.map (·.map utf8Bytes)).foldlM o.pushRow d =
      .ok ⟨d.columns, d.records ++ rows.map (Dataset.recordOfRow d.columns)⟩ := by
  induction rows generalizing d with
  | nil => rw [List.map_nil, List.foldlM_nil, List.map_nil, List.append_nil]; rfl
  | cons r rows ih =>
    have hrow : o.pushRow d (r.map utf8Bytes) =
        .ok (d.push (Dataset.recordOfRow d.columns r)) := by
      rw [pushRow, fields_map_utf8Bytes ho, Except.bind,
        Dataset.pushRow_of_length_le (hlength r List.mem_cons_self)]
      rfl
    have hrest := ih (d := d.push (Dataset.recordOfRow d.columns r))
      fun s hs => hlength s (List.mem_cons_of_mem r hs)
    rw [List.map_cons, List.foldlM_cons, hrow]
    refine hrest.trans ?_
    rw [Dataset.push, List.append_assoc, List.singleton_append, List.map_cons]

end ReadOptions

/-- The dataset that is read if the dialect finds a header and no longer rows in the bytes. -/
theorem Dataset.read_of_rows {o : ReadOptions} (ho : o.trim = false) {bytes : List UInt8}
    {columns : List String} {rows : List (List String)}
    (hbytes : o.dialect.rows (dropByteOrderMark bytes) =
      (columns :: rows).map (·.map utf8Bytes))
    (hnodup : columns.Nodup) (hnonempty : ∃ c ∈ columns, c ≠ "")
    (hlength : ∀ r ∈ rows, r.length ≤ columns.length) :
    Dataset.read o bytes = .ok ⟨columns, rows.map (recordOfRow columns)⟩ := by
  rw [read, hbytes, List.map_cons]
  simp only
  rw [o.header_map_utf8Bytes ho hnodup hnonempty, Except.bind,
    o.foldlM_pushRow ho hlength, List.nil_append]

end SurveyTables
