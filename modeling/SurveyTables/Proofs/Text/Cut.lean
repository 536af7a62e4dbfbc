import SurveyTables.Proofs.Text.Separator

/-!
# Cutting two texts in a row

* `joinPieces` : the pieces of one text and those of another behind it, where the last piece of the
  one and the first piece of the other are one piece;
* `Connective.Parts k u t` : wherever in `u` a separator is looked for, the text `t` behind `u`
  changes nothing. `Parts.split_append` : then `u` and `t` are cut as if each stood alone;
* `parts_of_stops`, `parts_symbol` : this is so if `t` begins with neither a blank nor a letter, such
  as with the symbol of a connective;
* `parts_of_gap` : and if `t` begins with a gap, unless `u` ends with a blank or with a keyword that
  the gap would complete (`EndsInWord`).
-/

namespace SurveyTables.Text

/-! ## The ends of texts -/

section
variable {p : Char → Bool} {u t : List Char}

theorem Stops.reverse_of_suffix (h : Stops p u.reverse) (ht : t <:+ u) (hne : t ≠ []) :
    Stops p t.reverse := by
  obtain ⟨s, rfl⟩ := ht
  obtain ⟨c, r, hcr⟩ := List.exists_cons_of_ne_nil (List.reverse_ne_nil_iff.2 hne)
  rw [List.reverse_append, hcr, List.cons_append, stops_cons] at h
  rw [hcr]
  exact stops_cons.2 h

theorem stops_reverse_iff : Stops p u.reverse ↔ ∀ c, p c → ¬ [c] <:+ u := by
  constructor
  · intro h c hc hs
    have hcs := h.reverse_of_suffix hs (List.cons_ne_nil c [])
    rw [List.reverse_singleton, stops_cons, hc] at hcs
    cases hcs
  · intro h c hc
    rw [Bool.eq_false_iff]
    intro hp
    obtain ⟨r, hr⟩ := List.head?_eq_some_iff.1 hc
    refine h c hp ⟨r.reverse, ?_⟩
    rw [← List.reverse_reverse u, hr, List.reverse_cons]

/-- A text that does not end with a blank keeps something when its leading blanks are taken away,
and what stands behind it is not touched. -/
theorem trimStart_append_of_last (hne : u ≠ []) (h : Stops isBlank u.reverse) (t : List Char) :
    trimStart (u ++ t) = trimStart u ++ t := by
  obtain ⟨c, r, hcr⟩ := List.exists_cons_of_ne_nil (List.reverse_ne_nil_iff.2 hne)
  rw [hcr, stops_cons] at h
  have hc : c ∈ u := by
    rw [← List.mem_reverse, hcr]
    exact List.mem_cons_self
  rw [trimStart, List.dropWhile_append, if_neg]
  · rfl
  · intro hnil
    have hsplit := List.takeWhile_append_dropWhile (p := isBlank) (l := u)
    rw [List.isEmpty_iff.1 hnil, List.append_nil] at hsplit
    rw [← hsplit] at hc
    rw [List.all_eq_true.1 List.all_takeWhile c hc] at h
    cases h

theorem skipBlanks?_append_of_last (hne : u ≠ []) (h : Stops isBlank u.reverse) (t : List Char) :
    skipBlanks? (u ++ t) = (skipBlanks? u).map (· ++ t) := by
  cases u with
  | nil => exact absurd rfl hne
  | cons c u =>
    rw [List.cons_append, skipBlanks?, skipBlanks?]
    split
    · rename_i hc
      have hu : u ≠ [] := by
        rintro rfl
        rw [List.reverse_singleton, stops_cons, hc] at h
        cases h
      rw [trimStart_append_of_last hu (h.reverse_of_suffix (List.suffix_cons c u) hu),
        Option.map_some]
    · rfl

theorem Stops.skipBlanks?_append (h : Stops isBlank t) (u : List Char) :
    skipBlanks? (u ++ t) = (skipBlanks? u).map (· ++ t) := by
  cases u with
  | nil => exact skipBlanks?_of_stops h
  | cons c u =>
    rw [List.cons_append, skipBlanks?, skipBlanks?]
    split
    · rw [trimStart, h.dropWhile_append, Option.map_some]
      rfl
    · rfl

theorem suffix_of_skipBlanks? (h : skipBlanks? u = some t) : t <:+ u := by
  cases u with
  | nil => cases h
  | cons c u =>
    rw [skipBlanks?] at h
    split at h
    · obtain rfl := Option.some.inj h
      exact (List.dropWhile_suffix isBlank).trans (List.suffix_cons c u)
    · cases h

end

/-! ## Keywords at the end -/

section
variable {word : List Char}

theorem exists_cased_of_dropKeyword? {s r : List Char} (h : dropKeyword? word s = some r) :
    ∃ w : Cased word, s = w.chars ++ r := by
  induction word generalizing s with
  | nil => exact ⟨⟨[], rfl⟩, Option.some.inj h⟩
  | cons a word ih =>
    cases s with
    | nil => cases h
    | cons c s =>
      rw [dropKeyword?] at h
      split at h
      · rename_i hc
        obtain ⟨w, rfl⟩ := ih h
        exact ⟨⟨c :: w.chars, by rw [List.map_cons, w.upper, hc]⟩, rfl⟩
      · cases h

/-- A keyword is not continued by a text that does not begin with a letter. -/
theorem dropKeyword?_append (hword : word.all Char.isUpper) {t : List Char}
    (ht : Stops Char.isAlpha t) (s : List Char) :
    dropKeyword? word (s ++ t) = (dropKeyword? word s).map (· ++ t) := by
  induction word generalizing s with
  | nil => rfl
  | cons a word ih =>
    cases s with
    | nil => exact dropKeyword?_of_stops hword (List.cons_ne_nil a word) ht
    | cons c s =>
      rw [List.cons_append, dropKeyword?, dropKeyword?]
      split
      · exact ih (Bool.and_eq_true_iff.1 hword).2 s
      · rfl

/-- The text ends with the keyword, in some spelling, behind a gap. -/
def EndsInWord (word u : List Char) : Prop :=
  ∃ (g : Run isBlank) (w : Cased word), g.chars ++ w.chars <:+ u

/-- The keyword is not at the end if it is not at the start of the text read backwards. -/
theorem not_endsInWord_of_dropKeyword? {u : List Char}
    (h : dropKeyword? word.reverse u.reverse = none) : ¬ EndsInWord word u := by
  rintro ⟨g, w, s, rfl⟩
  let w' : Cased word.reverse := ⟨w.chars.reverse, by rw [List.map_reverse, w.upper]⟩
  rw [List.reverse_append, List.reverse_append, List.append_assoc] at h
  rw [show w.chars.reverse = w'.chars from rfl, dropKeyword?_cased] at h
  cases h

end

/-! ## Pieces -/

def joinPieces : List (List Char) → List (List Char) → List (List Char)
  | [], qs => qs
  | [p], qs => p.foldr consFirst qs
  | p :: q :: ps, qs => p :: joinPieces (q :: ps) qs

theorem joinPieces_consFirst (c : Char) (ps qs : List (List Char)) :
    joinPieces (consFirst c ps) qs = consFirst c (joinPieces ps qs) := by
  match ps with
  | [] => rfl
  | [_] => rfl
  | _ :: _ :: _ => rfl

theorem joinPieces_cons {ps : List (List Char)} (h : ps ≠ []) (p : List Char)
    (qs : List (List Char)) : joinPieces (p :: ps) qs = p :: joinPieces ps qs := by
  cases ps with
  | nil => exact absurd rfl h
  | cons q ps => rfl

/-- An empty first piece leaves the last piece before it as it is. -/
theorem joinPieces_nil_cons {ps : List (List Char)} (h : ps ≠ []) (qs : List (List Char)) :
    joinPieces ps ([] :: qs) = ps ++ qs := by
  induction ps with
  | nil => exact absurd rfl h
  | cons p ps ih =>
    cases ps with
    | nil =>
      show p.foldr consFirst ([] :: qs) = p :: qs
      rw [Connective.foldr_consFirst, List.append_nil]
    | cons q ps => rw [joinPieces_cons (List.cons_ne_nil q ps), ih (List.cons_ne_nil q ps)]; rfl

namespace Connective

theorem split_ne_nil (k : Connective) (s : List Char) : k.split s ≠ [] := by
  cases s with
  | nil => rw [split]; exact List.cons_ne_nil _ _
  | cons c s =>
    cases hd : k.drop? (c :: s) with
    | some r => rw [split_of_drop? hd]; exact List.cons_ne_nil _ _
    | none =>
      rw [split_cons hd]
      cases k.split s <;> exact List.cons_ne_nil _ _

/-- A text without separators is its own only piece. -/
theorem eq_of_split_eq_singleton {k : Connective} {s p : List Char} (h : k.split s = [p]) :
    p = s := by
  induction s generalizing p with
  | nil =>
    rw [split] at h
    exact (List.cons.inj h).1.symm
  | cons c s ih =>
    cases hd : k.drop? (c :: s) with
    | some r =>
      rw [split_of_drop? hd] at h
      exact absurd (List.cons.inj h).2 (split_ne_nil k r)
    | none =>
      rw [split_cons hd] at h
      cases hs : k.split s with
      | nil => exact absurd hs (split_ne_nil k s)
      | cons q qs =>
        rw [hs] at h
        obtain ⟨rfl, rfl⟩ := List.cons.inj h
        rw [ih hs]

theorem suffix_of_drop? {k : Connective} {s r : List Char} (h : k.drop? s = some r) : r <:+ s := by
  cases s with
  | nil => cases h
  | cons c s =>
    rw [drop?] at h
    split at h
    · obtain ⟨t, ht, hr⟩ := Option.bind_eq_some_iff.1 h
      obtain ⟨w, hw⟩ := exists_cased_of_dropKeyword? ht
      have hts : t <:+ trimStart s := ⟨w.chars, hw.symm⟩
      exact ((suffix_of_skipBlanks? hr).trans hts).trans
        ((List.dropWhile_suffix isBlank).trans (List.suffix_cons c s))
    · split at h
      · obtain rfl := Option.some.inj h
        exact List.suffix_cons c s
      · cases h

/-! ## Two texts in a row -/

/-- The text `t` behind `u` neither completes nor lengthens a separator that begins in `u`. -/
def Parts (k : Connective) (u t : List Char) : Prop :=
  ∀ s, s <:+ u → s ≠ [] → k.drop? (s ++ t) = (k.drop? s).map (· ++ t)

section
variable {k : Connective} {u t : List Char}

theorem Parts.of_suffix (h : k.Parts u t) {v : List Char} (hv : v <:+ u) : k.Parts v t :=
  fun s hs => h s (hs.trans hv)

theorem Parts.split_append (h : k.Parts u t) :
    k.split (u ++ t) = joinPieces (k.split u) (k.split t) := by
  fun_induction split k u with
  | case1 => rfl
  | case2 c u r hd _ ih =>
    have hdrop := h (c :: u) List.suffix_rfl (List.cons_ne_nil c u)
    rw [hd] at hdrop
    rw [split_of_drop? hdrop, joinPieces_cons (split_ne_nil k r),
      ih (h.of_suffix (suffix_of_drop? hd))]
  | case3 c u hd ih =>
    have hdrop := h (c :: u) List.suffix_rfl (List.cons_ne_nil c u)
    rw [hd, List.cons_append] at hdrop
    rw [List.cons_append, split_cons hdrop, joinPieces_consFirst,
      ih (h.of_suffix (List.suffix_cons c u))]

/-- A text that is cut at its very start is cut off from the one before it. -/
theorem Parts.split_append_of_nil_cons (h : k.Parts u t) {ps : List (List Char)}
    (ht : k.split t = [] :: ps) : k.split (u ++ t) = k.split u ++ ps := by
  rw [h.split_append, ht, joinPieces_nil_cons (split_ne_nil k u)]

/-- Texts without separators have none in a row. -/
theorem Parts.split_append_of_singleton (h : k.Parts u t) (hu : k.split u = [u])
    (ht : k.split t = [t]) : k.split (u ++ t) = [u ++ t] := by
  rw [h.split_append, hu, ht]
  exact foldr_consFirst u t []

theorem parts_of_stops (hk : k.Plain) (hb : Stops isBlank t) (ha : Stops Char.isAlpha t)
    (u : List Char) : k.Parts u t := by
  intro s _ hne
  cases s with
  | nil => exact absurd rfl hne
  | cons c s =>
    rw [List.cons_append, drop?, drop?]
    split
    · rw [trimStart, hb.dropWhile_append, dropKeyword?_append hk.word_isUpper ha, trimStart]
      cases dropKeyword? k.word (s.dropWhile isBlank) with
      | none => rfl
      | some r => exact hb.skipBlanks?_append r
    · split <;> rfl

/-- A symbol, of this connective or another, completes nothing. -/
theorem parts_symbol (hk : k.Plain) {j : Connective} (hj : j.Plain) (u t : List Char) :
    k.Parts u (j.symbol :: t) :=
  parts_of_stops hk (stops_cons.2 hj.isBlank_symbol) (stops_cons.2 hj.isAlpha_symbol) u

theorem parts_of_gap (hk : k.Plain) (g : Run isBlank) (hu : Stops isBlank u.reverse)
    (hend : ¬ EndsInWord k.word u) (t : List Char) : k.Parts u (g.chars ++ t) := by
  have ha : Stops Char.isAlpha (g.chars ++ t) := g.stops (fun c hc => isAlpha_of_isBlank hc) t
  intro s hs hne
  cases s with
  | nil => exact absurd rfl hne
  | cons c s =>
    rw [List.cons_append, drop?, drop?]
    split
    · rename_i hc
      have hsuffix : s <:+ u := (List.suffix_cons c s).trans hs
      have hsne : s ≠ [] := by
        rintro rfl
        have hlast := hu.reverse_of_suffix hs hne
        rw [List.reverse_singleton, stops_cons, hc] at hlast
        cases hlast
      rw [trimStart_append_of_last hsne (hu.reverse_of_suffix hsuffix hsne),
        dropKeyword?_append hk.word_isUpper ha]
      cases hd : dropKeyword? k.word (trimStart s) with
      | none => rfl
      | some r =>
        obtain ⟨w, hw⟩ := exists_cased_of_dropKeyword? hd
        have hrs : r <:+ s := List.IsSuffix.trans ⟨w.chars, hw.symm⟩ (List.dropWhile_suffix isBlank)
        have hrne : r ≠ [] := by
          -- else the text ends with the keyword
          rintro rfl
          have hblanks : ∀ d ∈ c :: s.takeWhile isBlank, isBlank d := by
            intro d hd
            rcases List.mem_cons.1 hd with rfl | hd
            · exact hc
            · exact List.all_eq_true.1 List.all_takeWhile d hd
          refine hend ⟨⟨c :: s.takeWhile isBlank, List.cons_ne_nil _ _, hblanks⟩, w, ?_⟩
          rw [List.append_nil] at hw
          rw [List.cons_append, ← hw, trimStart, List.takeWhile_append_dropWhile]
          exact hs
        exact skipBlanks?_append_of_last hrne (hu.reverse_of_suffix (hrs.trans hsuffix) hrne) _
    · split <;> rfl

end

end Connective

end SurveyTables.Text
