import SurveyTables.Proofs.Equation.Expansion
import SurveyTables.Proofs.Text.Cut

/-!
# Clauses on either side of a connective

* `Boundary.takeNumber?_append` : a number is not continued by a text that begins at a word boundary;
* `Severs t` : the text `t` begins with a blank or the symbol of a connective, and no clause that
  begins before it goes on in it. `severs_symbol`, `severs_spaced` : symbols and keywords;
* `Severs.read?_append`, `Severs.expandBetween_append` : then both sides of the start of `t` are
  written out as if each stood alone;
* `head?_expandBetween`, `suffix_of_expandBetween` : writing out clauses keeps the first character,
  and makes no ending without digits that was not there before.
-/

namespace SurveyTables.Equation

open Text Between

/-! ## Numbers in front of a boundary -/

namespace Boundary
variable {t : List Char} (ht : Boundary t)
include ht

theorem takeSign_append (s : List Char) :
    takeSign (s ++ t) = ((takeSign s).1, (takeSign s).2 ++ t) := by
  cases s with
  | nil =>
    cases t with
    | nil => rfl
    | cons c t =>
      refine takeSign_cons ?_ t
      rintro rfl
      exact absurd (ht '-' rfl) (by decide)
  | cons c s =>
    by_cases hc : c = '-'
    · subst hc
      rfl
    · rw [List.cons_append, takeSign_cons hc, takeSign_cons hc]
      rfl

theorem takeFraction_append (s : List Char) :
    takeFraction (s ++ t) = ((takeFraction s).1, (takeFraction s).2 ++ t) := by
  have hstop : Stops isNumberChar t := ht.stops fun c => isNumberChar_of_isBoundaryChar
  have hdigits : Stops isDecimalDigit t := fun c hc => (Bool.or_eq_false_iff.1 (hstop c hc)).1
  have hpoint : ∀ {u : List Char}, u.head? ≠ some '.' → takeFraction u = ([], u) := by
    intro u hu
    unfold takeFraction
    split
    · exact absurd rfl hu
    · rfl
  cases s with
  | nil =>
    refine hpoint fun h => ?_
    exact absurd (hstop '.' h) (by decide +kernel)
  | cons c s =>
    by_cases hc : c = '.'
    · subst hc
      rw [List.cons_append, takeFraction, takeFraction, hdigits.takeWhile_append,
        hdigits.dropWhile_append]
      split <;> rfl
    · have hne : ∀ u, (c :: u).head? ≠ some '.' := fun u h => hc (Option.some.inj h)
      rw [List.cons_append, hpoint (hne _), hpoint (hne s)]
      rfl

theorem takeNumber?_append (s : List Char) :
    takeNumber? (s ++ t) = (takeNumber? s).map fun p => (p.1, p.2 ++ t) := by
  have hstop : Stops isDecimalDigit t := fun c hc =>
    (Bool.or_eq_false_iff.1 (isNumberChar_of_isBoundaryChar (ht c hc))).1
  rw [takeNumber?, takeNumber?, ht.takeSign_append]
  simp only [hstop.takeWhile_append, hstop.dropWhile_append, ht.takeFraction_append]
  split <;> rfl

theorem takeNumber?_eq_none : takeNumber? t = none :=
  ht.takeNumber?_append []

end Boundary

/-! ## Texts that no clause reaches into -/

/-- The text begins at a word boundary, and behind its leading blanks there is nothing that a clause
could go on with. -/
structure Severs (t : List Char) : Prop where
  boundary : Boundary t
  not_number : takeNumber? (trimStart t) = none
  not_between : dropKeyword? "BETWEEN".toList (trimStart t) = none
  not_and : dropKeyword? "AND".toList (trimStart t) = none

theorem isAlpha_of_isBoundaryChar {c : Char} (h : isBoundaryChar c) : c.isAlpha = false := by
  simp only [isBoundaryChar, Bool.or_eq_true, beq_iff_eq] at h
  rcases h with (h | rfl) | rfl
  · exact isAlpha_of_isBlank h
  · decide
  · decide

theorem severs_symbol {c : Char} (h : isBoundaryChar c) (hb : isBlank c = false) (t : List Char) :
    Severs (c :: t) := by
  have hboundary : Boundary (c :: t) := boundary_cons h t
  have hstart : trimStart (c :: t) = c :: t := (stops_cons.2 hb).dropWhile_eq
  have hword : ∀ word : List Char, word.all Char.isUpper → word ≠ [] →
      dropKeyword? word (c :: t) = none :=
    fun word hw hne => dropKeyword?_of_stops hw hne (stops_cons.2 (isAlpha_of_isBoundaryChar h))
  refine ⟨hboundary, ?_, ?_, ?_⟩ <;> rw [hstart]
  · exact hboundary.takeNumber?_eq_none
  · exact hword _ (by decide) (by decide)
  · exact hword _ (by decide) (by decide)

/-- A keyword with another first letter than `BETWEEN` and `AND` keeps clauses apart. -/
theorem severs_spaced {k : Connective} (hk : k.Plain)
    (hb : "BETWEEN".toList.head? ≠ k.word.head?) (ha : "AND".toList.head? ≠ k.word.head?)
    (w : Spaced k.word) (t : List Char) : Severs (w.text ++ t) := by
  have hcore := w.keyword.tight hk.word_isUpper hk.word_ne_nil
  have hstart : trimStart (w.text ++ t) = w.keyword.chars ++ (w.after.chars ++ t) := by
    rw [Spaced.text, List.append_assoc, List.append_assoc]
    exact trimStart_append w.before.all (hcore.stops _)
  have hword : ∀ word : List Char, word.all Char.isUpper → word ≠ [] →
      word.head? ≠ k.word.head? →
      dropKeyword? word (w.keyword.chars ++ (w.after.chars ++ t)) = none :=
    fun word hw hne hh => Connective.Spelling.dropKeyword?_core hk (.word w) hw hne hh _
  refine ⟨boundary_spaced w t, ?_, ?_, ?_⟩ <;> rw [hstart]
  · exact takeNumber?_cased hk.word_isUpper hk.word_ne_nil _ _
  · exact hword _ (by decide) (by decide) hb
  · exact hword _ (by decide) (by decide) ha

namespace Severs
variable {t : List Char} (ht : Severs t)
include ht

theorem stops {p : Char → Bool} (hp : ∀ c, isBoundaryChar c → p c = false) : Stops p t :=
  ht.boundary.stops hp

/-- What begins in front of `t` with blanks and cannot go on in `t` does not notice it. -/
theorem skipBlanks?_bind {α : Type} {f : List Char → Option α} (hf : f t = none)
    (hstart : f (trimStart t) = none) (s : List Char) :
    (skipBlanks? (s ++ t)).bind f = (skipBlanks? s).bind fun r => f (r ++ t) := by
  cases s with
  | nil =>
    cases t with
    | nil => rfl
    | cons c t =>
      show (if isBlank c then some (trimStart t) else none).bind f = none
      split
      · rename_i hc
        rwa [trimStart, List.dropWhile_cons_of_pos hc] at hstart
      · rfl
  | cons c s =>
    rw [List.cons_append, skipBlanks?, skipBlanks?]
    split
    · rw [Option.bind_some, Option.bind_some, trimStart, List.dropWhile_append]
      split
      · rename_i hs
        rw [trimStart, List.isEmpty_iff.1 hs, List.nil_append, hf]
        exact hstart
      · rfl
    · rfl

theorem skipWord?_bind {α : Type} {f : List Char → Option α} (hf : f t = none)
    (hstart : f (trimStart t) = none) {word : List Char} (hword : word.all Char.isUpper)
    (hne : word ≠ []) (hnot : dropKeyword? word (trimStart t) = none) (s : List Char) :
    (skipWord? word (s ++ t)).bind f = (skipWord? word s).bind fun r => f (r ++ t) := by
  have halpha : Stops Char.isAlpha t := ht.stops fun c => isAlpha_of_isBoundaryChar
  let g : List Char → Option α := fun x => ((dropKeyword? word x).bind skipBlanks?).bind f
  have hg : g t = none := by
    show ((dropKeyword? word t).bind skipBlanks?).bind f = none
    rw [dropKeyword?_of_stops hword hne halpha]
    rfl
  have hgstart : g (trimStart t) = none := by
    show ((dropKeyword? word (trimStart t)).bind skipBlanks?).bind f = none
    rw [hnot]
    rfl
  show ((skipBlanks? (s ++ t)).bind fun x => (dropKeyword? word x).bind skipBlanks?).bind f =
    ((skipBlanks? s).bind fun x => (dropKeyword? word x).bind skipBlanks?).bind fun r => f (r ++ t)
  rw [Option.bind_assoc, Option.bind_assoc]
  refine (ht.skipBlanks?_bind hg hgstart s).trans (congrArg _ (funext fun x => ?_))
  show ((dropKeyword? word (x ++ t)).bind skipBlanks?).bind f = _
  rw [dropKeyword?_append hword halpha]
  cases dropKeyword? word x with
  | none => rfl
  | some y => exact ht.skipBlanks?_bind hf hstart y

theorem read?_append (s : List Char) :
    Between.read? (s ++ t) = (Between.read? s).map fun p => (p.1, p.2 ++ t) := by
  have hname : Stops isNameChar t := ht.stops fun c => isNameChar_of_isBoundaryChar
  have hnumber : takeNumber? t = none := ht.boundary.takeNumber?_eq_none
  rw [read?_eq, read?_eq, hname.takeWhile_append, hname.dropWhile_append]
  split
  · rfl
  · have hf : ∀ {β : Type} (g : List Char × List Char → Option β), (takeNumber? t).bind g = none :=
      fun g => by rw [hnumber]; rfl
    have hstart : ∀ {β : Type} (g : List Char × List Char → Option β),
        (takeNumber? (trimStart t)).bind g = none := fun g => by rw [ht.not_number]; rfl
    rw [ht.skipWord?_bind (hf _) (hstart _) (by decide) (by decide) ht.not_between]
    cases skipWord? "BETWEEN".toList (s.dropWhile isNameChar) with
    | none => rfl
    | some s₁ =>
      rw [Option.bind_some, Option.bind_some, ht.boundary.takeNumber?_append]
      cases takeNumber? s₁ with
      | none => rfl
      | some low =>
        rw [Option.map_some, Option.bind_some, Option.bind_some,
          ht.skipWord?_bind (hf _) (hstart _) (by decide) (by decide) ht.not_and]
        cases skipWord? "AND".toList low.2 with
        | none => rfl
        | some s₂ =>
          rw [Option.bind_some, Option.bind_some, ht.boundary.takeNumber?_append]
          cases takeNumber? s₂ with
          | none => rfl
          | some high => rfl

theorem expandBetween_append (w : Bool) (u : List Char) :
    expandBetween w (u ++ t) = expandBetween w u ++ expandBetween false t := by
  fun_induction expandBetween w u with
  | case1 w => exact ht.boundary.expandBetween_eq w
  | case2 w c u b rest h _ ih =>
    cases w with
    | true => cases h
    | false =>
      have hread : Between.read? (c :: u) = some (b, rest) := h
      have happend := ht.read?_append (c :: u)
      rw [hread] at happend
      rw [expandBetween_of_read? happend, ih, List.append_assoc]
  | case3 w c u h ih =>
    have hread : w = true ∨ Between.read? (c :: (u ++ t)) = none := by
      cases w with
      | true => exact Or.inl rfl
      | false =>
        have hnone : Between.read? (c :: u) = none := h
        refine Or.inr ?_
        rw [← List.cons_append, ht.read?_append, hnone]
        rfl
    rw [List.cons_append, expandBetween_cons hread, ih, List.cons_append]

end Severs

/-! ## The ends of a written-out text -/

/-- The last character of the text is a decimal digit. -/
def EndsInDigit (u : List Char) : Prop := ∃ s d, u = s ++ [d] ∧ isDecimalDigit d

theorem endsInDigit_of_forall {u : List Char} (hne : u ≠ []) (h : ∀ c ∈ u, isDecimalDigit c) :
    EndsInDigit u :=
  ⟨u.dropLast, u.getLast hne, (List.dropLast_concat_getLast hne).symm,
    h _ (List.getLast_mem hne)⟩

theorem EndsInDigit.append {u : List Char} (h : EndsInDigit u) (s : List Char) :
    EndsInDigit (s ++ u) := by
  obtain ⟨r, d, rfl, hd⟩ := h
  exact ⟨s ++ r, d, (List.append_assoc s r [d]).symm, hd⟩

/-- An ending without digits does not reach back to a digit. -/
theorem EndsInDigit.suffix_of_append {u t z : List Char} (h : EndsInDigit u)
    (hz : ∀ c ∈ z, isDecimalDigit c = false) (hs : z <:+ u ++ t) : z <:+ t := by
  obtain ⟨s, d, rfl, hd⟩ := h
  have hdigit : d ∉ z := by
    intro hdz
    rw [hz d hdz] at hd
    cases hd
  have ht : d :: t <:+ s ++ [d] ++ t := ⟨s, by simp⟩
  rcases List.suffix_or_suffix_of_suffix hs ht with h | h
  · rcases List.suffix_cons_iff.1 h with rfl | h
    · exact absurd List.mem_cons_self hdigit
    · exact h
  · exact absurd (h.subset List.mem_cons_self) hdigit

theorem endsInDigit_of_takeNumber? {s : List Char} {p : List Char × List Char}
    (h : takeNumber? s = some p) : EndsInDigit p.1 := by
  simp only [takeNumber?] at h
  split at h
  · cases h
  · rename_i hwhole
    obtain rfl := Option.some.inj h
    have hdigits : ∀ u : List Char, ∀ c ∈ u.takeWhile isDecimalDigit, isDecimalDigit c :=
      fun u => List.all_eq_true.1 List.all_takeWhile
    have hw : EndsInDigit ((takeSign s).2.takeWhile isDecimalDigit) :=
      endsInDigit_of_forall (by simpa using hwhole) (hdigits _)
    generalize (takeSign s).2.dropWhile isDecimalDigit = rest
    show EndsInDigit ((takeSign s).1 ++ (takeSign s).2.takeWhile isDecimalDigit ++
      (takeFraction rest).1)
    unfold takeFraction
    split
    · rename_i places
      split
      · rw [List.append_nil]
        exact hw.append _
      · rename_i hplaces
        have hp : EndsInDigit (places.takeWhile isDecimalDigit) :=
          endsInDigit_of_forall (by simpa using hplaces) (hdigits _)
        exact (hp.append ['.']).append _
    · rw [List.append_nil]
      exact hw.append _

theorem suffix_takeSign (s : List Char) : (takeSign s).2 <:+ s := by
  unfold takeSign
  split
  · exact List.suffix_cons _ _
  · exact List.suffix_rfl

theorem suffix_takeFraction (s : List Char) : (takeFraction s).2 <:+ s := by
  unfold takeFraction
  split
  · split
    · exact List.suffix_rfl
    · exact (List.dropWhile_suffix isDecimalDigit).trans (List.suffix_cons _ _)
  · exact List.suffix_rfl

theorem suffix_of_takeNumber? {s : List Char} {p : List Char × List Char}
    (h : takeNumber? s = some p) : p.2 <:+ s := by
  simp only [takeNumber?] at h
  split at h
  · cases h
  · obtain rfl := Option.some.inj h
    exact (suffix_takeFraction _).trans
      ((List.dropWhile_suffix isDecimalDigit).trans (suffix_takeSign s))

theorem suffix_of_skipWord? {word s r : List Char} (h : skipWord? word s = some r) : r <:+ s := by
  simp only [skipWord?, Option.bind_eq_bind, Option.bind_eq_some_iff] at h
  obtain ⟨s₁, h₁, s₂, h₂, hr⟩ := h
  obtain ⟨w, hw⟩ := exists_cased_of_dropKeyword? h₂
  have hs₂ : s₂ <:+ s₁ := ⟨w.chars, hw.symm⟩
  exact ((suffix_of_skipBlanks? hr).trans hs₂).trans (suffix_of_skipBlanks? h₁)

/-- A clause has a name in front, a digit at the end, and the rest of the text behind it. -/
theorem of_read? {s rest : List Char} {b : Between} (h : Between.read? s = some (b, rest)) :
    b.code = s.takeWhile isNameChar ∧ b.code ≠ [] ∧ EndsInDigit b.high ∧ rest <:+ s := by
  rw [read?_eq] at h
  split at h
  · cases h
  · rename_i hname
    obtain ⟨s₁, h₁, h⟩ := Option.bind_eq_some_iff.1 h
    obtain ⟨low, hlow, h⟩ := Option.bind_eq_some_iff.1 h
    obtain ⟨s₂, h₂, h⟩ := Option.bind_eq_some_iff.1 h
    obtain ⟨high, hhigh, h⟩ := Option.bind_eq_some_iff.1 h
    obtain ⟨rfl, rfl⟩ := Prod.mk.inj (Option.some.inj h)
    have hs₁ : s₁ <:+ s := (suffix_of_skipWord? h₁).trans (List.dropWhile_suffix isNameChar)
    have hs₂ : s₂ <:+ s := ((suffix_of_skipWord? h₂).trans (suffix_of_takeNumber? hlow)).trans hs₁
    exact ⟨rfl, by simpa using hname, endsInDigit_of_takeNumber? hhigh,
      (suffix_of_takeNumber? hhigh).trans hs₂⟩

theorem endsInDigit_conditionsText {s rest : List Char} {b : Between}
    (h : Between.read? s = some (b, rest)) : EndsInDigit b.conditionsText :=
  (of_read? h).2.2.1.append _

/-- Writing out clauses keeps the first character of a text. -/
theorem head?_expandBetween (w : Bool) (s : List Char) : (expandBetween w s).head? = s.head? := by
  fun_induction expandBetween w s with
  | case1 w => rfl
  | case2 w c r b rest h _ _ =>
    cases w with
    | true => cases h
    | false =>
      obtain ⟨hcode, hne, -⟩ := of_read? h
      rw [List.takeWhile_cons] at hcode
      split at hcode
      · rw [Between.conditionsText, hcode]
        rfl
      · exact absurd hcode hne
  | case3 w c r h _ => rfl

theorem expandBetween_eq_self {w : Bool} {s : List Char}
    (h : ∀ c ∈ expandBetween w s, isDecimalDigit c = false) : expandBetween w s = s := by
  fun_induction expandBetween w s with
  | case1 w => rfl
  | case2 w c r b rest hr _ _ =>
    cases w with
    | true => cases hr
    | false =>
      obtain ⟨u, d, hu, hd⟩ := endsInDigit_conditionsText hr
      have hmem : d ∈ b.conditionsText ++ expandBetween true rest := by simp [hu]
      rw [h d hmem] at hd
      cases hd
  | case3 w c r _ ih => rw [ih fun d hd => h d (List.mem_cons_of_mem c hd)]

/-- An ending without digits of the written-out text is one of the text itself. -/
theorem suffix_of_expandBetween {w : Bool} {s z : List Char}
    (hz : ∀ c ∈ z, isDecimalDigit c = false) (h : z <:+ expandBetween w s) : z <:+ s := by
  fun_induction expandBetween w s with
  | case1 w => exact h
  | case2 w c r b rest hr _ ih =>
    cases w with
    | true => cases hr
    | false =>
      have hread : Between.read? (c :: r) = some (b, rest) := hr
      exact (ih ((endsInDigit_conditionsText hread).suffix_of_append hz h)).trans
        (of_read? hread).2.2.2
  | case3 w c r _ ih =>
    rcases List.suffix_cons_iff.1 h with rfl | h
    · have hself := expandBetween_eq_self fun d hd => hz d (List.mem_cons_of_mem c hd)
      exact ⟨[], congrArg (c :: ·) hself⟩
    · exact (ih h).trans (List.suffix_cons c r)

end SurveyTables.Equation
