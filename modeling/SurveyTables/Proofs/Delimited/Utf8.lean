import SurveyTables.Delimited.Reader

/-!
# Bytes of texts

* `utf8Bytes_eq` : the bytes of a text, character by character; ASCII characters have one byte below
  128 (`utf8EncodeChar_of_lt`), all others only bytes from 128 on (`le_of_mem_utf8EncodeChar`);
* `IsText` : bytes that are those of a text. Texts stay texts when they are put together
  (`IsText.append`) and when ASCII bytes in them are replaced (`isText_flatMap`);
* `dropByteOrderMark_of_ne` : a byte order mark is only seen in a text that begins with it.
-/

namespace SurveyTables

open String (utf8EncodeChar)

/-! ## Characters -/

theorem utf8Bytes_eq (s : String) : utf8Bytes s = s.toList.flatMap utf8EncodeChar := by
  show s.toByteArray.data.toList = _
  rw [← String.utf8Encode_toList, List.utf8Encode, List.toList_data_toByteArray]

theorem utf8Bytes_append (s t : String) : utf8Bytes (s ++ t) = utf8Bytes s ++ utf8Bytes t := by
  rw [utf8Bytes_eq, utf8Bytes_eq, utf8Bytes_eq, String.toList_append, List.flatMap_append]

theorem utf8Bytes_eq_nil_iff {s : String} : utf8Bytes s = [] ↔ s = "" := by
  constructor
  · intro h
    have hdecode := ofUtf8Bytes?_utf8Bytes s
    rw [h] at hdecode
    exact (Option.some.inj ((ofUtf8Bytes?_utf8Bytes "").symm.trans hdecode)).symm
  · rintro rfl
    exact utf8Bytes_eq ""

theorem utf8EncodeChar_of_lt {c : Char} (h : c.toNat < 128) :
    utf8EncodeChar c = [UInt8.ofNat c.toNat] :=
  if_pos (Nat.le_of_lt_succ h)

theorem exists_encodeChar_eq {b : UInt8} (h : b < 128) :
    ∃ c : Char, c.toNat < 128 ∧ utf8EncodeChar c = [b] := by
  have hb : b.toNat < 128 := UInt8.lt_iff_toNat_lt.1 h
  have hc : (Char.ofNat b.toNat).toNat = b.toNat := by
    rw [Char.ofNat, dif_pos (Or.inl (by omega))]
    rfl
  refine ⟨Char.ofNat b.toNat, by omega, ?_⟩
  rw [utf8EncodeChar_of_lt (by omega), hc, UInt8.ofNat_toNat]

theorem le_of_mem_utf8EncodeChar {c : Char} (h : 128 ≤ c.toNat) {b : UInt8}
    (hb : b ∈ utf8EncodeChar c) : 128 ≤ b := by
  rw [UInt8.le_iff_toNat_le]
  show 128 ≤ b.toNat
  have hv : ¬ c.val.toNat ≤ 0x7f := fun hle => absurd h (Nat.not_le.2 (Nat.lt_succ_of_le hle))
  -- one case for each number of bytes
  simp only [utf8EncodeChar, if_neg hv] at hb
  split at hb
  · simp only [List.mem_cons, List.not_mem_nil, or_false] at hb
    rcases hb with rfl | rfl <;> rw [UInt8.toNat_ofNat'] <;> omega
  · split at hb
    · simp only [List.mem_cons, List.not_mem_nil, or_false] at hb
      rcases hb with rfl | rfl | rfl <;> rw [UInt8.toNat_ofNat'] <;> omega
    · simp only [List.mem_cons, List.not_mem_nil, or_false] at hb
      rcases hb with rfl | rfl | rfl | rfl <;> rw [UInt8.toNat_ofNat'] <;> omega

theorem utf8EncodeChar_append_inj {c d : Char} {t u : List UInt8}
    (h : utf8EncodeChar c ++ t = utf8EncodeChar d ++ u) : c = d := by
  have hdecode : ∀ (c : Char) (t : List UInt8),
      (utf8EncodeChar c ++ t).toByteArray.utf8DecodeChar? 0 = some c := by
    intro c t
    rw [List.toByteArray_append]
    exact ByteArray.utf8DecodeChar?_utf8EncodeChar_append
  exact Option.some.inj ((hdecode c t).symm.trans (h ▸ hdecode d u))

theorem dropByteOrderMark_of_ne {c : Char} (hc : c ≠ '\ufeff') (t : List UInt8) :
    dropByteOrderMark (utf8EncodeChar c ++ t) = utf8EncodeChar c ++ t := by
  unfold dropByteOrderMark
  split
  · rename_i rest h
    exact absurd (utf8EncodeChar_append_inj (d := '\ufeff') (u := rest) h) hc
  · rfl

/-! ## Texts -/

def IsText (bytes : List UInt8) : Prop := ∃ s, utf8Bytes s = bytes

theorem IsText.ofUtf8Bytes? {bytes : List UInt8} (h : IsText bytes) :
    ∃ s, SurveyTables.ofUtf8Bytes? bytes = some s ∧ utf8Bytes s = bytes := by
  obtain ⟨s, rfl⟩ := h
  exact ⟨s, ofUtf8Bytes?_utf8Bytes s, rfl⟩

theorem isText_nil : IsText [] := ⟨"", utf8Bytes_eq ""⟩

theorem IsText.append {a b : List UInt8} (ha : IsText a) (hb : IsText b) : IsText (a ++ b) := by
  obtain ⟨s, rfl⟩ := ha
  obtain ⟨t, rfl⟩ := hb
  exact ⟨s ++ t, utf8Bytes_append s t⟩

theorem isText_flatten {l : List (List UInt8)} (h : ∀ a ∈ l, IsText a) : IsText l.flatten := by
  induction l with
  | nil => exact isText_nil
  | cons a l ih =>
    rw [List.flatten_cons]
    exact (h a List.mem_cons_self).append (ih fun b hb => h b (List.mem_cons_of_mem a hb))

theorem isText_encodeChar (c : Char) : IsText (utf8EncodeChar c) := by
  refine ⟨String.singleton c, ?_⟩
  rw [utf8Bytes_eq, String.toList_singleton, List.flatMap_singleton]

theorem isText_ascii {b : UInt8} (h : b < 128) : IsText [b] := by
  obtain ⟨c, -, hc⟩ := exists_encodeChar_eq h
  exact hc ▸ isText_encodeChar c

/-- A text in which some of the ASCII bytes are replaced by texts is a text. -/
theorem isText_flatMap {f : UInt8 → List UInt8} (hascii : ∀ b < 128, IsText (f b))
    (hother : ∀ b, 128 ≤ b → f b = [b]) (s : String) : IsText ((utf8Bytes s).flatMap f) := by
  rw [utf8Bytes_eq, List.flatMap_assoc, List.flatMap_def]
  refine isText_flatten fun a ha => ?_
  obtain ⟨c, -, rfl⟩ := List.mem_map.1 ha
  by_cases hc : c.toNat < 128
  · rw [utf8EncodeChar_of_lt hc, List.flatMap_singleton]
    refine hascii _ (UInt8.lt_iff_toNat_lt.2 ?_)
    rw [UInt8.toNat_ofNat']
    show c.toNat % 2 ^ 8 < 128
    omega
  · have hsame : (utf8EncodeChar c).flatMap f = (utf8EncodeChar c).flatMap fun b => [b] :=
      congrArg List.flatten (List.map_congr_left fun b hb =>
        hother b (le_of_mem_utf8EncodeChar (Nat.not_lt.1 hc) hb))
    rw [hsame, List.flatMap_singleton']
    exact isText_encodeChar c

end SurveyTables
