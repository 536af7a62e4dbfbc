import SurveyTables.Proofs.Decimal.Order
import SurveyTables.Proofs.Text.Blank

/-!
# The characters of numbers

* `mem_numberText` : a number is shown in letters, digits and points, with a minus sign only if it
  is below zero;
* `isNumeralChar_of_mem_numberOfText?` : a text that is read as a number has no other characters
  than these, a plus sign and blanks. So a text with a comma is no number
  (`numberOfText?_of_comma`).
-/

namespace SurveyTables

open Text

namespace Decimal

/-! ## Numbers as they are shown -/

/-- A number other than zero is written without a zero in front. -/
theorem head?_toDigits_ne {n : Nat} (h : 0 < n) : (Nat.toDigits 10 n).head? ≠ some '0' := by
  induction n using Nat.strongRecOn with
  | ind n ih =>
    by_cases hn : n < 10
    · rw [Nat.toDigits_of_lt_base hn]
      have hall : ∀ k < 10, 0 < k → Nat.digitChar k ≠ '0' := by decide
      simpa using hall n hn h
    · have hq : 0 < n / 10 := Nat.div_pos (by omega) (by decide)
      have hfront := ih (n / 10) (Nat.div_lt_self h (by decide)) hq
      rw [Nat.toDigits_of_base_le (by decide) (by omega)]
      cases hd : Nat.toDigits 10 (n / 10) with
      | nil => exact absurd hd Nat.toDigits_ne_nil
      | cons c t => simpa [hd] using hfront

/-- The digits of a number of units, with zeros in front up to the digit before the point. -/
def padded (units places : Nat) : List Char :=
  List.replicate (places + 1 - (Nat.toDigits 10 units).length) '0' ++ Nat.toDigits 10 units

theorem isDigit_of_mem_padded {units places : Nat} {c : Char} (h : c ∈ padded units places) :
    c.isDigit := by
  rcases List.mem_append.1 h with h | h
  · rw [List.eq_of_mem_replicate h]
    rfl
  · exact Nat.isDigit_of_mem_toDigits (by decide) (by decide) h

theorem mem_insertPoint {n places : Nat} {c : Char} (h : c ∈ insertPoint n places) :
    c.isDigit ∨ c = '.' := by
  simp only [insertPoint] at h
  split at h
  · exact Or.inl (isDigit_of_mem_padded h)
  · rcases List.mem_append.1 h with h | h
    · exact Or.inl (isDigit_of_mem_padded (List.mem_of_mem_take h))
    · rcases List.mem_cons.1 h with rfl | h
      · exact Or.inr rfl
      · exact Or.inl (isDigit_of_mem_padded (List.mem_of_mem_drop h))

theorem mem_plain {x : Float} {c : Char} (h : c ∈ plain x) :
    c ∈ signText x ∨ c.isAlphanum ∨ c = '.' := by
  unfold plain at h
  split at h
  · have hall : "NaN".toList.all Char.isAlphanum := by decide
    exact Or.inr (Or.inl (List.all_eq_true.1 hall c h))
  · split at h
    · rcases List.mem_append.1 h with h | h
      · exact Or.inl h
      · rcases mem_insertPoint h with h | h
        · exact Or.inr (Or.inl (Bool.or_eq_true_iff.2 (Or.inr h)))
        · exact Or.inr (Or.inr h)
    · rcases List.mem_append.1 h with h | h
      · exact Or.inl h
      · have hall : "inf".toList.all Char.isAlphanum := by decide
        exact Or.inr (Or.inl (List.all_eq_true.1 hall c h))

end Decimal

theorem mem_numberText {x : Float} {c : Char} (h : c ∈ (numberText x).toList) :
    c.isAlphanum ∨ c = '.' ∨ c = '-' ∧ ¬ 0 ≤ x := by
  unfold numberText at h
  split at h
  · have hall : "0".toList.all Char.isAlphanum := by decide
    exact Or.inl (List.all_eq_true.1 hall c h)
  · rename_i h0
    rw [String.toList_ofList] at h
    rcases Decimal.mem_plain h with h | h | h
    · unfold Decimal.signText at h
      split at h
      · rename_i hneg
        refine Or.inr (Or.inr ⟨List.mem_singleton.1 h, fun hnonneg => ?_⟩)
        rw [isNegative_of_nonneg hnonneg (Bool.eq_false_iff.2 h0)] at hneg
        cases hneg
      · cases h
    · exact Or.inl h
    · exact Or.inr (Or.inl h)

/-! ## Numbers as they are read -/

/-- The characters of a text that is read as a number. -/
def isNumeralChar (c : Char) : Bool := c.isAlphanum || c == '.' || c == '-' || c == '+'

theorem isNumeralChar_of_isAlphanum {c : Char} (h : c.isAlphanum) : isNumeralChar c := by
  rw [isNumeralChar, h, Bool.true_or, Bool.true_or, Bool.true_or]

theorem isNumeralChar_of_isDigit {c : Char} (h : c.isDigit) : isNumeralChar c :=
  isNumeralChar_of_isAlphanum (Bool.or_eq_true_iff.2 (Or.inr h))

theorem isAlpha_of_isLower_toLower {c : Char} (h : c.toLower.isLower) : c.isAlpha := by
  unfold Char.toLower at h
  split at h
  · rename_i hc
    exact Bool.or_eq_true_iff.2 (Or.inl (decide_eq_true hc))
  · exact Bool.or_eq_true_iff.2 (Or.inr h)

namespace Decimal

theorem isDigit_of_mem_readNat? {s : List Char} {n : Nat} (h : readNat? s = some n) :
    ∀ c ∈ s, c.isDigit := by
  unfold readNat? at h
  split at h
  · rename_i hs
    exact List.all_eq_true.1 (Bool.and_eq_true_iff.1 hs).2
  · cases h

theorem isNumeralChar_of_mem_readExponent? {s : List Char} {e : Int}
    (h : readExponent? s = some e) : ∀ c ∈ s, isNumeralChar c := by
  have hdigits : ∀ {t : List Char} {n : Int}, (readNat? t >>= fun m => pure (m : Int)) = some n →
      ∀ c ∈ t, isNumeralChar c := by
    intro t n ht c hc
    obtain ⟨m, hm, -⟩ := Option.bind_eq_some_iff.1 ht
    exact isNumeralChar_of_isDigit (isDigit_of_mem_readNat? hm c hc)
  have hletter : ∀ {c : Char}, c = 'e' ∨ c = 'E' → isNumeralChar c := by
    rintro c (rfl | rfl) <;> rfl
  revert h
  fun_cases readExponent? s with
  | case1 => exact fun _ => nofun
  | case2 c hc t =>
    intro h
    obtain ⟨n, hn, -⟩ := Option.map_eq_some_iff.1 h
    exact List.forall_mem_cons.2 ⟨hletter hc, List.forall_mem_cons.2 ⟨rfl, hdigits hn⟩⟩
  | case3 c hc t =>
    intro h
    obtain ⟨n, hn, -⟩ := Option.map_eq_some_iff.1 h
    exact List.forall_mem_cons.2 ⟨hletter hc, List.forall_mem_cons.2 ⟨rfl, hdigits hn⟩⟩
  | case4 c hc t =>
    intro h
    obtain ⟨n, hn, -⟩ := Option.map_eq_some_iff.1 h
    exact List.forall_mem_cons.2 ⟨hletter hc, hdigits hn⟩
  | case5 => exact nofun

theorem mem_takePlaces {s : List Char} {c : Char} (h : c ∈ s) :
    isNumeralChar c ∨ c ∈ (takePlaces s).2 := by
  unfold takePlaces
  split
  · rename_i t
    rcases List.mem_cons.1 h with rfl | h
    · exact Or.inl rfl
    · rw [← List.takeWhile_append_dropWhile (p := Char.isDigit) (l := t)] at h
      rcases List.mem_append.1 h with h | h
      · exact Or.inl (isNumeralChar_of_isDigit (List.all_eq_true.1 List.all_takeWhile c h))
      · exact Or.inr h
  · exact Or.inr h

theorem isNumeralChar_of_mem_read? {s : List Char} {d : Decimal} (h : read? s = some d) :
    ∀ c ∈ s, isNumeralChar c := by
  simp only [read?] at h
  split at h
  · cases h
  · obtain ⟨e, he, -⟩ := Option.map_eq_some_iff.1 h
    intro c hc
    rw [← List.takeWhile_append_dropWhile (p := Char.isDigit) (l := s)] at hc
    rcases List.mem_append.1 hc with hc | hc
    · exact isNumeralChar_of_isDigit (List.all_eq_true.1 List.all_takeWhile c hc)
    · rcases mem_takePlaces hc with hc | hc
      · exact hc
      · exact isNumeralChar_of_mem_readExponent? he c hc

theorem isNumeralChar_of_mem_word {s word : List Char} (hword : word.all Char.isLower)
    (h : s.map Char.toLower = word) : ∀ c ∈ s, isNumeralChar c := by
  intro c hc
  have hmem : c.toLower ∈ word := h ▸ List.mem_map_of_mem hc
  have halpha := isAlpha_of_isLower_toLower (List.all_eq_true.1 hword _ hmem)
  exact isNumeralChar_of_isAlphanum (Bool.or_eq_true_iff.2 (Or.inl halpha))

theorem isNumeralChar_of_mem_readMagnitude? {s : List Char} {x : Float}
    (h : readMagnitude? s = some x) : ∀ c ∈ s, isNumeralChar c := by
  unfold readMagnitude? at h
  simp only at h
  split at h
  · rename_i hword
    rcases hword with hword | hword
    · exact isNumeralChar_of_mem_word (by decide) hword
    · exact isNumeralChar_of_mem_word (by decide) hword
  · split at h
    · rename_i hword
      exact isNumeralChar_of_mem_word (by decide) hword
    · obtain ⟨d, hd, -⟩ := Option.map_eq_some_iff.1 h
      exact isNumeralChar_of_mem_read? hd

theorem isNumeralChar_of_mem_readFloat? {s : List Char} {x : Float}
    (h : readFloat? s = some x) : ∀ c ∈ s, isNumeralChar c := by
  unfold readFloat? at h
  split at h
  · obtain ⟨y, hy, -⟩ := Option.map_eq_some_iff.1 h
    exact List.forall_mem_cons.2 ⟨rfl, isNumeralChar_of_mem_readMagnitude? hy⟩
  · exact List.forall_mem_cons.2 ⟨rfl, isNumeralChar_of_mem_readMagnitude? h⟩
  · exact isNumeralChar_of_mem_readMagnitude? h

end Decimal

theorem isNumeralChar_of_mem_numberOfText? {s : String} {x : Float} (h : numberOfText? s = some x)
    {c : Char} (hc : c ∈ s.toList) : isNumeralChar c ∨ isBlank c := by
  obtain ⟨hread, -⟩ := Option.filter_eq_some_iff.1 h
  obtain ⟨pre, post, hs⟩ := eq_padded_trim s.toList
  rw [hs] at hc
  rcases List.mem_append.1 hc with hc | hc
  · rcases List.mem_append.1 hc with hc | hc
    · exact Or.inr (pre.all c hc)
    · exact Or.inl (Decimal.isNumeralChar_of_mem_readFloat? hread c hc)
  · exact Or.inr (post.all c hc)

/-- A text with a comma is no number. -/
theorem numberOfText?_of_comma {s : String} (h : ',' ∈ s.toList) : numberOfText? s = none := by
  rw [Option.eq_none_iff_forall_ne_some]
  intro x hx
  rcases isNumeralChar_of_mem_numberOfText? hx h with hc | hc
  · cases hc
  · exact absurd hc (by decide)

end SurveyTables
