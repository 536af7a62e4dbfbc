import SurveyTables.Json.Token
import SurveyTables.Proofs.Decimal.Characters
import SurveyTables.Proofs.Text.Blank

/-!
# Tokens read back

What the writer puts down token by token, the reader takes up again, whatever stands after it.

* `readNumber?_append` : a number that ends where a text ends is read in front of anything that
  does not go on with it (`Apart`), and an integer within the 64-bit ranges is (`readNumber?_int`);
* `RoundTrips x` : the digits written for the double `x` denote it. A whole text decides this
  (`roundTrips_iff`), and only a finite double reads back (`RoundTrips.isFinite`);
* `readString?_flatMap_escapeChar` : an escaped string is read up to its closing quote;
* `Token.read?_scalarText`, `Token.read?_mark` : every token of a written value is read as itself;
* `Passes ts` : the tokens, written one after the other, are cut into themselves in front of
  anything apart from a number. `Passes.cons` and `Passes.append` build longer runs of tokens.
-/

namespace SurveyTables.Json

open Text

/-! ## Numbers -/

/-- A character that may go on with a number. -/
def isNumberChar (c : Char) : Bool := c.isDigit || c == '.' || c == 'e' || c == 'E'

/-- A number ends where the text begins. -/
abbrev Apart (t : List Char) : Prop := Stops isNumberChar t

section
variable {s rest : List Char}

theorem Apart.stops_isDigit (h : Apart rest) : Stops Char.isDigit rest := by
  intro c hc
  have hnot := h c hc
  simp only [isNumberChar, Bool.or_eq_false_iff] at hnot
  exact hnot.1.1.1

theorem takeWhole?_append {p : List Char × List Char} (h : takeWhole? s = some p)
    (hr : Apart rest) : takeWhole? (s ++ rest) = some (p.1, p.2 ++ rest) := by
  have hd := hr.stops_isDigit
  simp only [takeWhole?, hd.takeWhile_append, hd.dropWhile_append] at h ⊢
  split at h
  · simp at h
  · rename_i hne
    have hs : s ≠ [] := by
      rintro rfl
      simp at hne
    rw [if_neg hne]
    split at h
    · rename_i hzero
      obtain rfl := Option.some.inj h
      rw [if_pos hzero, List.tail_append_of_ne_nil hs]
    · rename_i hzero
      obtain rfl := Option.some.inj h
      rw [if_neg hzero]

theorem takeDigits?_append {p : List Char × List Char} (h : takeDigits? s = some p)
    (hr : Apart rest) : takeDigits? (s ++ rest) = some (p.1, p.2 ++ rest) := by
  have hd := hr.stops_isDigit
  simp only [takeDigits?, hd.takeWhile_append, hd.dropWhile_append] at h ⊢
  split at h
  · simp at h
  · rename_i hne
    obtain rfl := Option.some.inj h
    rw [if_neg hne]

theorem takePlaces?_of_apart (hr : Apart rest) : takePlaces? rest = some (none, rest) := by
  unfold takePlaces?
  split
  · simp [Apart, isNumberChar] at hr
  · rfl

theorem takePlaces?_append {p : Option (List Char) × List Char} (h : takePlaces? s = some p)
    (hr : Apart rest) : takePlaces? (s ++ rest) = some (p.1, p.2 ++ rest) := by
  unfold takePlaces? at h
  split at h
  · obtain ⟨q, hq, rfl⟩ := Option.map_eq_some_iff.1 h
    simp [takePlaces?, takeDigits?_append hq hr]
  · rename_i hpoint
    obtain rfl := Option.some.inj h
    cases s with
    | nil => exact takePlaces?_of_apart hr
    | cons c s =>
      rw [List.cons_append, takePlaces?]
      intro r hc
      obtain ⟨rfl, -⟩ := List.cons.inj hc
      exact hpoint s rfl

theorem takeExponent?_of_apart (hr : Apart rest) : takeExponent? rest = some (none, rest) := by
  unfold takeExponent?
  split
  · rfl
  · rename_i c r
    have hc : ¬ (c = 'e' ∨ c = 'E') := by
      rintro (rfl | rfl) <;> simp [Apart, isNumberChar] at hr
    rw [if_neg hc]

theorem takeExponent?_append {p : Option Int × List Char} (h : takeExponent? s = some p)
    (hr : Apart rest) : takeExponent? (s ++ rest) = some (p.1, p.2 ++ rest) := by
  unfold takeExponent? at h
  split at h
  · obtain rfl := Option.some.inj h
    exact takeExponent?_of_apart hr
  · rename_i c s
    split at h
    · rename_i hc
      split at h
      · obtain ⟨q, hq, rfl⟩ := Option.map_eq_some_iff.1 h
        simp [takeExponent?, hc, takeDigits?_append hq hr]
      · obtain ⟨q, hq, rfl⟩ := Option.map_eq_some_iff.1 h
        simp [takeExponent?, hc, takeDigits?_append hq hr]
      · rename_i hminus hplus
        obtain ⟨q, hq, rfl⟩ := Option.map_eq_some_iff.1 h
        have hdigits := takeDigits?_append hq hr
        cases s with
        | nil => simp [takeDigits?] at hq
        | cons d s =>
          have hd : d ≠ '-' ∧ d ≠ '+' :=
            ⟨fun hd => hminus s (by rw [hd]), fun hd => hplus s (by rw [hd])⟩
          simp_all [takeExponent?]
    · rename_i hc
      obtain rfl := Option.some.inj h
      unfold takeExponent?
      exact if_neg hc

theorem readUnsigned?_append {b : Bool} {p : Json × List Char} (h : readUnsigned? b s = some p)
    (hr : Apart rest) : readUnsigned? b (s ++ rest) = some (p.1, p.2 ++ rest) := by
  simp only [readUnsigned?, Option.bind_eq_bind, Option.pure_def, Option.bind_eq_some_iff,
    Option.some.injEq] at h
  obtain ⟨w, hw, q, hq, e, he, rfl⟩ := h
  simp [readUnsigned?, takeWhole?_append hw hr, takePlaces?_append hq hr,
    takeExponent?_append he hr]

/-- The first character of a number without a sign is a digit. -/
theorem exists_digit_of_readUnsigned? {b : Bool} {p : Json × List Char}
    (h : readUnsigned? b s = some p) : ∃ c t, s = c :: t ∧ c.isDigit := by
  cases s with
  | nil => simp [readUnsigned?, takeWhole?] at h
  | cons c t =>
    refine ⟨c, t, rfl, ?_⟩
    cases hc : c.isDigit with
    | true => rfl
    | false => simp [readUnsigned?, takeWhole?, hc] at h

theorem readNumber?_append {p : Json × List Char} (h : readNumber? s = some p) (hr : Apart rest) :
    readNumber? (s ++ rest) = some (p.1, p.2 ++ rest) := by
  unfold readNumber? at h
  split at h
  · exact readUnsigned?_append h hr
  · rename_i hminus
    have hunsigned := readUnsigned?_append h hr
    obtain ⟨c, t, rfl, -⟩ := exists_digit_of_readUnsigned? h
    rw [List.cons_append, readNumber?]
    · exact hunsigned
    · intro r hc
      obtain ⟨rfl, -⟩ := List.cons.inj hc
      exact hminus t rfl

/-- The first character of a number is a digit or a minus sign. -/
theorem exists_first_of_readNumber? {p : Json × List Char} (h : readNumber? s = some p) :
    ∃ c t, s = c :: t ∧ (c.isDigit ∨ c = '-') := by
  unfold readNumber? at h
  split at h
  · exact ⟨_, _, rfl, Or.inr rfl⟩
  · obtain ⟨c, t, rfl, hc⟩ := exists_digit_of_readUnsigned? h
    exact ⟨c, t, rfl, Or.inl hc⟩

end

/-! ### Integers -/

theorem takeWhole?_toDigits (n : Nat) :
    takeWhole? (Nat.toDigits 10 n) = some (Nat.toDigits 10 n, []) := by
  have hdigits : ∀ c ∈ Nat.toDigits 10 n, c.isDigit := fun c hc =>
    Nat.isDigit_of_mem_toDigits (by decide) (by decide) hc
  have htake : (Nat.toDigits 10 n).takeWhile Char.isDigit = Nat.toDigits 10 n := by
    simpa using stops_nil.takeWhile hdigits
  have hdrop : (Nat.toDigits 10 n).dropWhile Char.isDigit = [] := by
    simpa using stops_nil.dropWhile hdigits
  rcases Nat.eq_zero_or_pos n with rfl | hn
  · rfl
  · simp [takeWhole?, htake, hdrop, Nat.toDigits_ne_nil, Decimal.head?_toDigits_ne hn]

theorem readUnsigned?_toDigits (b : Bool) (n : Nat) :
    readUnsigned? b (Nat.toDigits 10 n) = some (integerOf b (Nat.toDigits 10 n), []) := by
  simp [readUnsigned?, takeWhole?_toDigits, takePlaces?, takeExponent?, numberOf]

theorem readNumber?_toDigits (n : Nat) :
    readNumber? (Nat.toDigits 10 n) = some (integerOf false (Nat.toDigits 10 n), []) := by
  have hread := readUnsigned?_toDigits false n
  obtain ⟨c, t, heq, hc⟩ := exists_digit_of_readUnsigned? hread
  rw [heq] at hread ⊢
  rw [readNumber?]
  · exact hread
  · intro r hcons
    obtain ⟨rfl, -⟩ := List.cons.inj hcons
    simp at hc

/-- The integer is within the 64-bit ranges. -/
def FitsWord (i : Int) : Prop := -(UInt64.size / 2 : Nat) ≤ i ∧ i < (UInt64.size : Nat)

theorem readNumber?_int {i : Int} (h : FitsWord i) :
    readNumber? (toString i).toList = some (.int i, []) := by
  obtain ⟨hlow, hhigh⟩ := h
  cases i with
  | ofNat n =>
    have hn : n < UInt64.size := Int.ofNat_lt.1 hhigh
    change readNumber? (Nat.repr n).toList = _
    rw [Nat.toList_repr, readNumber?_toDigits]
    simp [integerOf, Nat.ofDigitChars_toDigits, hn]
  | negSucc n =>
    have hn : n + 1 ≤ UInt64.size / 2 := by omega
    change readNumber? ("-" ++ Nat.repr (n + 1)).toList = _
    rw [String.toList_append, Nat.toList_repr]
    change readUnsigned? true (Nat.toDigits 10 (n + 1)) = _
    rw [readUnsigned?_toDigits]
    simp [integerOf, Nat.ofDigitChars_toDigits, hn, Int.negSucc_eq]

/-! ### Doubles -/

/-- The digits written for the double denote it. The reader rounds a coefficient before it scales
it, so this is a condition on the double and not a fact about all of them. -/
def RoundTrips (x : Float) : Prop := readNumber? (realText x) = some (.real x, [])

/-- The double, if the value is one. -/
def real? : Json → Option Float
  | .real x => some x
  | _ => none

theorem roundTrips_iff {x : Float} :
    RoundTrips x ↔
      (readNumber? (realText x)).map (fun p => (p.1.real?, p.2)) = some (some x, []) := by
  constructor
  · intro h
    rw [h]
    rfl
  · intro h
    obtain ⟨⟨v, t⟩, hread, hp⟩ := Option.map_eq_some_iff.1 h
    obtain ⟨hv, ht⟩ := Prod.mk.inj hp
    cases v with
    | real y =>
      obtain rfl := Option.some.inj hv
      obtain rfl : t = [] := ht
      exact hread
    | _ => cases hv

instance (x : Float) : Decidable (RoundTrips x) := decidable_of_iff _ roundTrips_iff.symm

/-- A double that reads back is finite: what is not finite is written as null. -/
theorem RoundTrips.isFinite {x : Float} (h : RoundTrips x) : x.isFinite := by
  cases hx : x.isFinite with
  | true => rfl
  | false =>
    have hnone : readNumber? "null".toList = none := by decide
    have htext : realText x = "null".toList := by simp [realText, hx]
    rw [RoundTrips, htext, hnone] at h
    cases h

/-! ## Strings -/

theorem hexValue?_digitChar {n : Nat} (h : n < 16) : hexValue? (Nat.digitChar n) = some n := by
  have hall : ∀ k < 16, hexValue? (Nat.digitChar k) = some k := by decide
  exact hall n h

theorem readUnit?_hexText {n : Nat} (h : n < 65536) (t : List Char) :
    readUnit? (hexText n ++ t) = some (n, t) := by
  have hmod : ∀ k, hexValue? (Nat.digitChar (k % 16)) = some (k % 16) := fun k =>
    hexValue?_digitChar (Nat.mod_lt k (by decide))
  simp only [hexText, List.map_cons, List.map_nil, List.cons_append, List.nil_append, readUnit?,
    hmod, Option.bind_eq_bind, Option.bind_some, Option.pure_def, Option.some.injEq,
    Prod.mk.injEq, and_true]
  omega

theorem readNumbered?_hexText {c : Char} (h : c.toNat < 0x20) (t : List Char) :
    readNumbered? (hexText c.toNat ++ t) = some (some c, t) := by
  have hhigh : ¬ (0xD800 ≤ c.toNat ∧ c.toNat < 0xDC00) := by omega
  have hlow : ¬ (0xDC00 ≤ c.toNat ∧ c.toNat < 0xE000) := by omega
  simp [readNumbered?, readUnit?_hexText (show c.toNat < 65536 by omega), hhigh, hlow]

/-- A character inside a string is read back, escaped or not. -/
theorem readChar?_escapeChar (c : Char) (t : List Char) :
    readChar? (escapeChar c ++ t) = some (some c, t) := by
  unfold escapeChar
  iterate 7
    split
    · subst c
      rfl
  split
  · rename_i hcontrol
    exact readNumbered?_hexText hcontrol t
  · rename_i hslash _ _ _ _ _ hcontrol
    simp [readChar?, hslash, hcontrol]

theorem head?_escapeChar_ne (c : Char) (t : List Char) : (escapeChar c ++ t).head? ≠ some '"' := by
  unfold escapeChar
  split
  · simp
  · rename_i hquote
    iterate 7
      split
      · simp
    simpa using hquote

theorem readString?_escapeChar (c : Char) (t : List Char) :
    readString? (escapeChar c ++ t) = (readString? t).map fun p => (some c :: p.1, p.2) := by
  rw [readString?, if_neg (head?_escapeChar_ne c t)]
  split
  · rename_i hnone
    rw [readChar?_escapeChar] at hnone
    cases hnone
  · rename_i d r hsome
    rw [readChar?_escapeChar] at hsome
    cases hsome
    rfl

theorem readString?_flatMap_escapeChar (l t : List Char) :
    readString? (l.flatMap escapeChar ++ '"' :: t) = some (l.map some, t) := by
  induction l with
  | nil => simp [readString?]
  | cons c l ih =>
    rw [List.flatMap_cons, List.append_assoc, readString?_escapeChar, ih]
    rfl

theorem mapM_id_map_some {α : Type} (l : List α) : (l.map some).mapM id = some l := by
  induction l with
  | nil => rfl
  | cons a l ih => simp [List.mapM_cons, ih]

theorem Token.ofChars_map_some (s : String) :
    Token.ofChars (s.toList.map some) = .scalar (.string s) := by
  simp only [Token.ofChars, mapM_id_map_some, String.ofList_toList]

/-! ## Tokens -/

/-- A scalar value whose text denotes it. -/
def IsLegible : Json → Prop
  | .null | .bool _ | .string _ => True
  | .int i => FitsWord i
  | .real x => RoundTrips x
  | _ => False

/-- A number is none of the other tokens. -/
theorem Token.read?_of_readNumber? {s : List Char} {p : Json × List Char}
    (h : readNumber? s = some p) : Token.read? s = some (.scalar p.1, p.2) := by
  obtain ⟨c, t, rfl, hc⟩ := exists_first_of_readNumber? h
  have hother : ∀ d, d.isDigit = false ∧ d ≠ '-' → c ≠ d := by
    rintro d ⟨hd, hminus⟩ rfl
    rcases hc with hc | hc
    · rw [hd] at hc
      cases hc
    · exact hminus hc
  simp only [Token.read?, h, hother '[' (by decide), hother ']' (by decide),
    hother '\x7b' (by decide), hother '\x7d' (by decide), hother ':' (by decide),
    hother ',' (by decide), hother '"' (by decide), hother 'n' (by decide),
    hother 't' (by decide), hother 'f' (by decide), if_false, Option.map_some]

theorem Token.read?_scalarText {v : Json} (hv : v.IsLegible) {rest : List Char}
    (hr : Apart rest) : Token.read? (scalarText v ++ rest) = some (.scalar v, rest) := by
  cases v with
  | null => rfl
  | bool b => cases b <;> rfl
  | int i => exact Token.read?_of_readNumber? (readNumber?_append (readNumber?_int hv) hr)
  | real x => exact Token.read?_of_readNumber? (readNumber?_append hv hr)
  | string s =>
    have hread := readString?_flatMap_escapeChar s.toList rest
    simp [scalarText, stringText, Token.read?, hread, Token.ofChars_map_some]
  | _ => exact hv.elim

/-- A bracket, a brace, a colon or a comma. -/
def Token.isMark : Token → Bool
  | .scalar _ | .brokenString => false
  | _ => true

theorem Token.read?_mark {t : Token} (h : t.isMark) (rest : List Char) :
    Token.read? (t.text ++ rest) = some (t, rest) := by
  cases t <;> first | rfl | cases h

theorem Token.apart_mark {t : Token} (h : t.isMark) (rest : List Char) :
    Apart (t.text ++ rest) := by
  cases t <;> first | exact stops_cons.2 (by decide) | cases h

theorem Token.readAll?_of_read? {s r : List Char} {t : Token} (h : Token.read? s = some (t, r)) :
    Token.readAll? s = (Token.readAll? r).map (t :: ·) := by
  cases s with
  | nil => simp [Token.read?] at h
  | cons c s =>
    have hspace : ¬ isSpace c := by
      simp only [isSpace, Bool.or_eq_true, beq_iff_eq]
      rintro (((rfl | rfl) | rfl) | rfl) <;>
        simp [Token.read?, readNumber?, readUnsigned?, takeWhole?] at h
    rw [Token.readAll?, if_neg hspace]
    split
    · rename_i hnone
      rw [h] at hnone
      cases hnone
    · rename_i hsome
      rw [h] at hsome
      cases hsome
      rfl

/-- The tokens, written one after the other, are read as themselves. -/
def Passes (ts : List Token) : Prop :=
  ∀ rest, Apart rest →
    Token.readAll? (ts.flatMap Token.text ++ rest) = (Token.readAll? rest).map (ts ++ ·)

theorem passes_nil : Passes [] := by
  intro rest _
  simp

theorem passes_scalar {v : Json} (hv : v.IsLegible) : Passes [.scalar v] := by
  intro rest hr
  rw [List.flatMap_singleton]
  exact Token.readAll?_of_read? (Token.read?_scalarText hv hr)

theorem Passes.cons {t : Token} {ts : List Token} (ht : t.isMark) (hs : Passes ts) :
    Passes (t :: ts) := by
  intro rest hr
  rw [List.flatMap_cons, List.append_assoc, Token.readAll?_of_read? (Token.read?_mark ht _),
    hs rest hr, Option.map_map]
  rfl

/-- What follows a mark is apart from a number before it. -/
theorem Passes.append {t : Token} {us ts : List Token} (hu : Passes us) (ht : t.isMark)
    (hs : Passes ts) : Passes (us ++ t :: ts) := by
  intro rest hr
  have hapart : Apart ((t :: ts).flatMap Token.text ++ rest) := by
    rw [List.flatMap_cons, List.append_assoc]
    exact Token.apart_mark ht _
  rw [List.flatMap_append, List.append_assoc, hu _ hapart, hs.cons ht rest hr, Option.map_map]
  simp [Function.comp_def]

theorem Passes.readAll? {ts : List Token} (h : Passes ts) :
    Token.readAll? (ts.flatMap Token.text) = some ts := by
  simpa [Token.readAll?] using h [] stops_nil

end SurveyTables.Json
