import SurveyTables.Delimited.Row
import SurveyTables.Proofs.Delimited.Utf8

/-!
# Rows written and read

The reader finds again the rows that were written, whatever bytes are in their fields.

* `Dialect.Proper` : the delimiter and the quote are two ASCII bytes that do not end a line;
* `Position.endsField` : the places of the reader from which a delimiter or the end of a line ends
  the field (`rowsFrom_delimiter`, `rowsFrom_lineEnd`);
* `exists_rowsFrom_fieldBytes` : behind a field as it is written the reader has the field and stands
  at such a place;
* `rowsFrom_joinFields`, `rows_rowBytes`, `rows_flatMap_rowBytes` : so it has the fields of a row
  behind the row, and all rows at the end. A row needs a first field that is not empty, because
  empty lines are skipped;
* `isText_rowBytes` : a row of texts is a text.
-/

namespace SurveyTables

open String (utf8EncodeChar)

/-- The reader is at an end of a field if a delimiter or the end of a line follows. -/
def Position.endsField : Position → Bool
  | .fieldStart => true
  | .bare => true
  | .afterQuote => true
  | .rowStart => false
  | .quoted => false

namespace Dialect

/-- The delimiter and the quote are two ASCII bytes that do not end a line. -/
structure Proper (d : Dialect) : Prop where
  distinct : d.delimiter ≠ d.quote
  delimiter_lt : d.delimiter < 128
  quote_lt : d.quote < 128
  delimiter_line : isLineEnd d.delimiter = false
  quote_line : isLineEnd d.quote = false

section
variable {d : Dialect} {p q : Position} {b : UInt8} {f field t : List UInt8}
  {row : List (List UInt8)}

/-! ## One byte -/

theorem rowsFrom_skip (h : d.action p b = .skip q) :
    d.rowsFrom p field row (b :: t) = d.rowsFrom q field row t := by
  rw [rowsFrom, h]

theorem rowsFrom_keep (h : d.action p b = .keep q) :
    d.rowsFrom p field row (b :: t) = d.rowsFrom q (b :: field) row t := by
  rw [rowsFrom, h]

theorem action_of_ne_quote (hp : p.endsField) (hb : b ≠ d.quote) :
    d.action p b = d.bareAction b := by
  cases p with
  | rowStart => cases hp
  | fieldStart => exact if_neg hb
  | bare => rfl
  | quoted => cases hp
  | afterQuote => exact if_neg hb

theorem not_special_iff :
    d.isSpecial b = false ↔ (b ≠ d.delimiter ∧ b ≠ d.quote) ∧ isLineEnd b = false := by
  simp [isSpecial]

theorem bareAction_of_not_special (h : d.isSpecial b = false) : d.bareAction b = .keep .bare := by
  obtain ⟨⟨hdelimiter, -⟩, hline⟩ := not_special_iff.1 h
  rw [bareAction, if_neg hdelimiter, if_neg (ne_true_of_eq_false hline)]

/-- Before a row the reader would skip the end of a line. Before any other byte it is as good as
before a field. -/
theorem rows_cons (hb : isLineEnd b = false) :
    d.rows (b :: t) = d.rowsFrom .fieldStart [] [] (b :: t) := by
  have haction : d.action .rowStart b = d.action .fieldStart b := if_neg (ne_true_of_eq_false hb)
  rw [rows, rowsFrom, rowsFrom, haction]

/-! ## A field -/

theorem fieldBytes_cases (d : Dialect) (f : List UInt8) :
    d.fieldBytes f = d.quoted f ∨ d.fieldBytes f = f ∧ ∀ b ∈ f, d.isSpecial b = false := by
  unfold fieldBytes
  by_cases hf : f.any d.isSpecial
  · exact Or.inl (if_pos hf)
  · exact Or.inr ⟨if_neg hf, by simpa using hf⟩

theorem rowsFrom_bare (hf : ∀ b ∈ f, d.isSpecial b = false) :
    d.rowsFrom .bare field row (f ++ t) = d.rowsFrom .bare (f.reverse ++ field) row t := by
  induction f generalizing field with
  | nil => rfl
  | cons b f ih =>
    have hkeep : d.action .bare b = .keep .bare :=
      bareAction_of_not_special (hf b List.mem_cons_self)
    rw [List.cons_append, rowsFrom_keep hkeep, List.reverse_cons, List.append_assoc]
    exact ih fun c hc => hf c (List.mem_cons_of_mem b hc)

theorem rowsFrom_quoted (f : List UInt8) :
    d.rowsFrom .quoted field row (f.flatMap d.quotedByte ++ t) =
      d.rowsFrom .quoted (f.reverse ++ field) row t := by
  induction f generalizing field with
  | nil => rfl
  | cons b f ih =>
    rw [List.flatMap_cons, List.append_assoc, List.reverse_cons, List.append_assoc,
      List.singleton_append, ← ih]
    by_cases hb : b = d.quote
    · -- two quotes: the first may be the closing one, the second shows that it is not
      have hfirst : d.action .quoted b = .skip .afterQuote := if_pos hb
      have hsecond : d.action .afterQuote b = .keep .quoted := if_pos hb
      rw [quotedByte, if_pos hb, List.cons_append, List.singleton_append, rowsFrom_skip hfirst,
        rowsFrom_keep hsecond]
    · have hkeep : d.action .quoted b = .keep .quoted := if_neg hb
      rw [quotedByte, if_neg hb, List.singleton_append, rowsFrom_keep hkeep]

theorem exists_rowsFrom_fieldBytes (d : Dialect) (f : List UInt8) :
    ∃ p : Position, p.endsField ∧ ∀ row t,
      d.rowsFrom .fieldStart [] row (d.fieldBytes f ++ t) = d.rowsFrom p f.reverse row t := by
  obtain hquoted | ⟨hbare, hplain⟩ := d.fieldBytes_cases f
  · refine ⟨.afterQuote, rfl, fun row t => ?_⟩
    have hopen : d.action .fieldStart d.quote = .skip .quoted := if_pos rfl
    have hclose : d.action .quoted d.quote = .skip .afterQuote := if_pos rfl
    rw [hquoted, quoted, List.cons_append, List.cons_append, rowsFrom_skip hopen,
      List.append_assoc, rowsFrom_quoted, List.append_nil, List.singleton_append,
      rowsFrom_skip hclose]
  · rw [hbare]
    cases f with
    | nil => exact ⟨.fieldStart, rfl, fun row t => rfl⟩
    | cons b f =>
      refine ⟨.bare, rfl, fun row t => ?_⟩
      have hb := hplain b List.mem_cons_self
      have hkeep : d.action .fieldStart b = .keep .bare := by
        rw [action_of_ne_quote rfl (not_special_iff.1 hb).1.2, bareAction_of_not_special hb]
      rw [List.cons_append, rowsFrom_keep hkeep, List.reverse_cons,
        rowsFrom_bare fun c hc => hplain c (List.mem_cons_of_mem b hc)]

theorem rowsFrom_delimiter (hd : d.Proper) (hp : p.endsField) :
    d.rowsFrom p field row (d.delimiter :: t) =
      d.rowsFrom .fieldStart [] (field.reverse :: row) t := by
  rw [rowsFrom, action_of_ne_quote hp hd.distinct, bareAction, if_pos rfl]

theorem rowsFrom_endByte (hd : d.Proper) (hp : p.endsField) (hb : isLineEnd b) :
    d.rowsFrom p field row (b :: t) = (field.reverse :: row).reverse :: d.rows t := by
  have hquote : b ≠ d.quote := by
    rintro rfl
    exact absurd hb (ne_true_of_eq_false hd.quote_line)
  have hdelimiter : b ≠ d.delimiter := by
    rintro rfl
    exact absurd hb (ne_true_of_eq_false hd.delimiter_line)
  rw [rowsFrom, action_of_ne_quote hp hquote, bareAction, if_neg hdelimiter, if_pos hb]
  rfl

/-- After a carriage return, the line feed is passed over as if it ended an empty line. -/
theorem rowsFrom_lineEnd (hd : d.Proper) (hp : p.endsField) (e : LineEnd) :
    d.rowsFrom p field row (e.bytes ++ t) = (field.reverse :: row).reverse :: d.rows t := by
  cases e with
  | lf => exact rowsFrom_endByte hd hp rfl
  | crlf => exact rowsFrom_endByte hd hp rfl

/-! ## Rows -/

theorem joinFields_singleton (d : Dialect) (f : List UInt8) :
    d.joinFields [f] = d.fieldBytes f := by
  rw [joinFields, List.map_singleton, List.intercalate_singleton]

theorem joinFields_cons_cons (d : Dialect) (f g : List UInt8) (fs : List (List UInt8)) :
    d.joinFields (f :: g :: fs) = d.fieldBytes f ++ (d.delimiter :: d.joinFields (g :: fs)) := by
  rw [joinFields, List.map_cons, List.map_cons, List.intercalate_cons_cons, ← List.map_cons,
    ← joinFields, List.append_assoc, List.singleton_append]

/-- Behind the fields of a row and the end of its line, the reader has the row. -/
theorem rowsFrom_joinFields (hd : d.Proper) (e : LineEnd) (f : List UInt8)
    (fs : List (List UInt8)) :
    d.rowsFrom .fieldStart [] row (d.joinFields (f :: fs) ++ (e.bytes ++ t)) =
      (row.reverse ++ f :: fs) :: d.rows t := by
  induction fs generalizing f row with
  | nil =>
    obtain ⟨p, hp, hfield⟩ := d.exists_rowsFrom_fieldBytes f
    rw [joinFields_singleton, hfield, rowsFrom_lineEnd hd hp, List.reverse_reverse,
      List.reverse_cons]
  | cons g fs ih =>
    obtain ⟨p, hp, hfield⟩ := d.exists_rowsFrom_fieldBytes f
    rw [joinFields_cons_cons, List.append_assoc, hfield, List.cons_append,
      rowsFrom_delimiter hd hp, ih, List.reverse_reverse, List.reverse_cons, List.append_assoc,
      List.singleton_append]

theorem exists_joinFields_eq (d : Dialect) (f : List UInt8) (fs : List (List UInt8)) :
    ∃ u, d.joinFields (f :: fs) = d.fieldBytes f ++ u := by
  cases fs with
  | nil => exact ⟨[], by rw [joinFields_singleton, List.append_nil]⟩
  | cons g fs => exact ⟨_, d.joinFields_cons_cons f g fs⟩

theorem exists_fieldBytes_eq_cons (hd : d.Proper) (hf : f ≠ []) :
    ∃ b u, d.fieldBytes f = b :: u ∧ isLineEnd b = false := by
  obtain hquoted | ⟨hbare, hplain⟩ := d.fieldBytes_cases f
  · exact ⟨d.quote, _, hquoted, hd.quote_line⟩
  · obtain ⟨b, u, rfl⟩ := List.exists_cons_of_ne_nil hf
    exact ⟨b, u, hbare, (not_special_iff.1 (hplain b List.mem_cons_self)).2⟩

theorem rows_rowBytes (hd : d.Proper) (e : LineEnd) (hf : f ≠ []) (fs : List (List UInt8)) :
    d.rows (d.rowBytes e (f :: fs) ++ t) = (f :: fs) :: d.rows t := by
  obtain ⟨u, hjoin⟩ := d.exists_joinFields_eq f fs
  obtain ⟨b, v, hfield, hb⟩ := exists_fieldBytes_eq_cons hd hf
  have hstart : d.rows (d.rowBytes e (f :: fs) ++ t) =
      d.rowsFrom .fieldStart [] [] (d.joinFields (f :: fs) ++ (e.bytes ++ t)) := by
    rw [rowBytes, List.append_assoc, hjoin, hfield]
    exact rows_cons hb
  rw [hstart, rowsFrom_joinFields hd]
  rfl

/-- The rows written one after the other are the rows read, if each has a first field that is not
empty. -/
theorem rows_flatMap_rowBytes (hd : d.Proper) (e : LineEnd) {rows : List (List (List UInt8))}
    (hrows : ∀ r ∈ rows, ∃ f fs, f ≠ [] ∧ r = f :: fs) :
    d.rows (rows.flatMap (d.rowBytes e)) = rows := by
  induction rows with
  | nil => rfl
  | cons r rows ih =>
    obtain ⟨f, fs, hf, rfl⟩ := hrows r List.mem_cons_self
    have hrest := ih fun s hs => hrows s (List.mem_cons_of_mem _ hs)
    rw [List.flatMap_cons, rows_rowBytes hd e hf, hrest]

/-! ## Texts -/

theorem isText_fieldBytes (hd : d.Proper) (hf : IsText f) : IsText (d.fieldBytes f) := by
  obtain hquoted | ⟨hbare, -⟩ := d.fieldBytes_cases f
  · obtain ⟨s, rfl⟩ := hf
    have hquote : IsText [d.quote] := isText_ascii hd.quote_lt
    have hinside : IsText ((utf8Bytes s).flatMap d.quotedByte) := by
      refine isText_flatMap (fun b hb => ?_) (fun b hb => ?_) s
      · unfold quotedByte
        split
        · exact (isText_ascii hb).append (isText_ascii hb)
        · exact isText_ascii hb
      · refine if_neg ?_
        rintro rfl
        exact absurd hd.quote_lt (UInt8.not_lt.2 hb)
    rw [hquoted]
    exact (hquote.append hinside).append hquote
  · rwa [hbare]

theorem isText_joinFields (hd : d.Proper) {fs : List (List UInt8)} (hfs : ∀ f ∈ fs, IsText f) :
    IsText (d.joinFields fs) := by
  match fs with
  | [] => exact isText_nil
  | [f] =>
    rw [joinFields_singleton]
    exact isText_fieldBytes hd (hfs f List.mem_cons_self)
  | f :: g :: fs =>
    have hrest := isText_joinFields hd fun h hh => hfs h (List.mem_cons_of_mem f hh)
    rw [joinFields_cons_cons]
    exact (isText_fieldBytes hd (hfs f List.mem_cons_self)).append
      ((isText_ascii hd.delimiter_lt).append hrest)

theorem isText_rowBytes (hd : d.Proper) (e : LineEnd) {fs : List (List UInt8)}
    (hfs : ∀ f ∈ fs, IsText f) : IsText (d.rowBytes e fs) := by
  refine (isText_joinFields hd hfs).append ?_
  cases e with
  | lf => exact isText_ascii (by decide)
  | crlf => exact (isText_ascii (by decide)).append (isText_ascii (by decide))

theorem exists_fieldBytes_eq_encodeChar (hd : d.Proper) {s : String} (hs : s ≠ "")
    (hmark : s.toList.head? ≠ some '\ufeff') :
    ∃ c u, c ≠ '\ufeff' ∧ d.fieldBytes (utf8Bytes s) = utf8EncodeChar c ++ u := by
  obtain hquoted | ⟨hbare, -⟩ := d.fieldBytes_cases (utf8Bytes s)
  · obtain ⟨c, hc, hbyte⟩ := exists_encodeChar_eq hd.quote_lt
    refine ⟨c, _, ?_, hquoted.trans (by rw [hbyte]; rfl)⟩
    rintro rfl
    exact absurd hc (by decide)
  · have hne : s.toList ≠ [] := fun h => hs (String.toList_eq_nil_iff.1 h)
    obtain ⟨c, u, hcons⟩ := List.exists_cons_of_ne_nil hne
    refine ⟨c, u.flatMap utf8EncodeChar, ?_, ?_⟩
    · rintro rfl
      exact hmark (by rw [hcons]; rfl)
    · rw [hbare, utf8Bytes_eq, hcons, List.flatMap_cons]

/-- Rows that begin with a text without a byte order mark begin without one. -/
theorem dropByteOrderMark_rowBytes (hd : d.Proper) (e : LineEnd) {s : String} (hs : s ≠ "")
    (hmark : s.toList.head? ≠ some '\ufeff') (fs : List (List UInt8)) (t : List UInt8) :
    dropByteOrderMark (d.rowBytes e (utf8Bytes s :: fs) ++ t) =
      d.rowBytes e (utf8Bytes s :: fs) ++ t := by
  obtain ⟨u, hjoin⟩ := d.exists_joinFields_eq (utf8Bytes s) fs
  obtain ⟨c, v, hc, hfield⟩ := exists_fieldBytes_eq_encodeChar hd hs hmark
  rw [rowBytes, hjoin, hfield, List.append_assoc, List.append_assoc, List.append_assoc]
  exact dropByteOrderMark_of_ne hc _

end

end Dialect

end SurveyTables
