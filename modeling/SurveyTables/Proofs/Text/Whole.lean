import SurveyTables.Proofs.Text.Cut

/-!
# Texts without separators

* `Connective.Whole k t` : no separator of `k` begins anywhere in `t`. This is so exactly if `t` is
  its own only piece (`Whole.split_eq`, `whole_of_split_eq`), and it is inherited by parts of the
  text (`Whole.of_isInfix`);
* `whole_padded` : a word with blanks around it, if it is not the word of `k`;
  `Whole.append`, `Whole.forall_append`, `Whole.intercalate` : texts in a row, and texts joined by a
  character that is neither a blank nor a letter;
* `trim_blanks_append` : blanks that are added to the ends of any text are taken away again;
* `map_trim_splitOn_trim` : they do not matter for the items of a list either.
-/

namespace SurveyTables.Text

namespace Connective

/-- No separator of the connective begins anywhere in the text. -/
def Whole (k : Connective) (t : List Char) : Prop := ∀ s, s <:+ t → k.drop? s = none

section
variable {k : Connective} {t : List Char}

theorem Whole.split_eq (h : k.Whole t) : k.split t = [t] := by
  induction t with
  | nil => rw [split]
  | cons c t ih =>
    have ht : k.Whole t := fun s hs => h s (hs.trans (List.suffix_cons c t))
    rw [split_cons (h (c :: t) List.suffix_rfl), ih ht]
    rfl

theorem whole_of_split_eq (h : k.split t = [t]) : k.Whole t := by
  induction t with
  | nil =>
    intro s hs
    rw [List.suffix_nil.1 hs]
    rfl
  | cons c t ih =>
    cases hd : k.drop? (c :: t) with
    | some r =>
      rw [split_of_drop? hd] at h
      exact absurd (List.cons.inj h).2 (split_ne_nil k r)
    | none =>
      rw [split_cons hd] at h
      obtain ⟨p, ps, hps⟩ := List.exists_cons_of_ne_nil (split_ne_nil k t)
      rw [hps] at h
      obtain ⟨hp, rfl⟩ := List.cons.inj h
      obtain ⟨-, rfl⟩ := List.cons.inj hp
      intro s hs
      rcases List.suffix_cons_iff.1 hs with rfl | hs
      · exact hd
      · exact ih hps s hs

/-- A separator is still one when more text stands behind it. -/
theorem drop?_append_ne_none {s r : List Char} (h : k.drop? s = some r) (t : List Char) :
    k.drop? (s ++ t) ≠ none := by
  cases s with
  | nil => cases h
  | cons c s =>
    rw [drop?] at h
    rw [List.cons_append, drop?]
    split at h
    · rename_i hc
      obtain ⟨u, hu, hr⟩ := Option.bind_eq_some_iff.1 h
      obtain ⟨w, hw⟩ := exists_cased_of_dropKeyword? hu
      have hstart : trimStart (s ++ t) = w.chars ++ (u ++ t) := by
        have hne : (trimStart s).isEmpty = false := by
          rw [List.isEmpty_eq_false_iff, hw]
          rintro hnil
          obtain ⟨-, rfl⟩ := List.append_eq_nil_iff.1 hnil
          cases hr
        rw [trimStart, List.dropWhile_append, if_neg (by simpa [trimStart] using hne),
          ← List.append_assoc, ← hw]
        rfl
      rw [if_pos hc, hstart, dropKeyword?_cased, Option.bind_some]
      cases u with
      | nil => cases hr
      | cons d u =>
        rw [skipBlanks?] at hr
        split at hr
        · rename_i hd
          rw [List.cons_append, skipBlanks?, if_pos hd]
          exact Option.some_ne_none _
        · cases hr
    · rename_i hc
      rw [if_neg hc]
      split at h
      · rename_i hsymbol
        rw [if_pos hsymbol]
        exact Option.some_ne_none _
      · cases h

theorem Whole.of_isInfix (h : k.Whole t) {u : List Char} (hu : u <:+: t) : k.Whole u := by
  obtain ⟨before, after, rfl⟩ := hu
  intro s hs
  have hsuffix : s ++ after <:+ before ++ u ++ after := by
    obtain ⟨r, rfl⟩ := hs
    exact ⟨before ++ r, by simp only [List.append_assoc]⟩
  cases hd : k.drop? s with
  | none => rfl
  | some r => exact absurd (h _ hsuffix) (drop?_append_ne_none hd after)

/-! ## Texts in a row -/

theorem Whole.append (hk : k.Plain) {u : List Char} (hu : k.Whole u) (hb : Stops isBlank t)
    (ha : Stops Char.isAlpha t) (ht : k.Whole t) : k.Whole (u ++ t) :=
  whole_of_split_eq
    ((parts_of_stops hk hb ha u).split_append_of_singleton hu.split_eq ht.split_eq)

theorem Whole.forall_append (ht : k.Whole t) {u : List Char}
    (hu : ∀ c ∈ u, isBlank c = false ∧ c ≠ k.symbol) : k.Whole (u ++ t) := by
  refine whole_of_split_eq ?_
  rw [split_append_of_forall hu, ht.split_eq, foldr_consFirst]

/-- Joining by a character that is neither a blank, nor a letter, nor the symbol makes no
separators. -/
theorem Whole.intercalate (hk : k.Plain) {sep : Char} (hb : isBlank sep = false)
    (ha : sep.isAlpha = false) (hs : sep ≠ k.symbol) {l : List (List Char)}
    (h : ∀ u ∈ l, k.Whole u) : k.Whole ([sep].intercalate l) := by
  induction l with
  | nil => exact whole_of_split_eq (by rw [List.intercalate_nil, split])
  | cons u l ih =>
    have hu := h u List.mem_cons_self
    cases l with
    | nil =>
      rw [List.intercalate_singleton]
      exact hu
    | cons v l =>
      have hl := ih fun w hw => h w (List.mem_cons_of_mem u hw)
      rw [List.intercalate_cons_cons, List.append_assoc]
      refine hu.append hk (stops_cons.2 hb) (stops_cons.2 ha) (hl.forall_append ?_)
      exact List.forall_mem_singleton.2 ⟨hb, hs⟩

/-! ## A word between blanks -/

/-- Blanks behind a word complete no keyword if the word is not that keyword. -/
theorem dropKeyword?_bind_blanks {word u : List Char} (hword : word.all Char.isUpper)
    (hu : ∀ c ∈ u, isBlank c = false) (hne : u.map Char.toUpper ≠ word) (b : Blanks) :
    (dropKeyword? word (u ++ b.chars)).bind skipBlanks? = none := by
  cases hd : dropKeyword? word (u ++ b.chars) with
  | none => rfl
  | some r =>
    obtain ⟨w, hw⟩ := exists_cased_of_dropKeyword? hd
    have hwu : u ≠ w.chars := fun h => hne (h ▸ w.upper)
    rw [Option.bind_some]
    rcases List.append_eq_append_iff.1 hw with ⟨v, hv, hb⟩ | ⟨v, rfl, rfl⟩
    · -- the keyword would reach into the blanks
      cases v with
      | nil => exact absurd (by rw [hv, List.append_nil]) hwu
      | cons c v =>
        have hblank : isBlank c := b.all c (by simp [hb])
        have halpha : c.isAlpha := w.isAlpha hword (by simp [hv])
        rw [isBlank_of_isAlpha halpha] at hblank
        cases hblank
    · cases v with
      | nil => exact absurd (List.append_nil _) hwu
      | cons c v => exact skipBlanks?_of_stops (stops_cons.2 (hu c (by simp)))

theorem whole_padded (hk : k.Plain) {u : List Char}
    (hu : ∀ c ∈ u, isBlank c = false ∧ c ≠ k.symbol) (hne : u.map Char.toUpper ≠ k.word)
    (pre post : Blanks) : k.Whole (pre.chars ++ u ++ post.chars) := by
  have hblank : ∀ c ∈ u, isBlank c = false := fun c hc => (hu c hc).1
  refine whole_of_split_eq ?_
  by_cases hnil : u = []
  · have hall : ∀ c ∈ pre.chars ++ post.chars, isBlank c := fun c hc =>
      (List.mem_append.1 hc).elim (pre.all c) (post.all c)
    rw [hnil, List.append_nil]
    exact split_of_blanks ⟨_, hall⟩ hk
  · rw [List.append_assoc,
      split_blanks pre ((stops_of_forall hblank).append hnil _)
        (dropKeyword?_bind_blanks hk.word_isUpper hblank hne post),
      split_append_of_forall hu, split_of_blanks post hk, foldr_consFirst, foldr_consFirst]

end

end Connective

/-! ## Blanks at the ends of a list -/

theorem trim_of_blanks (b : Blanks) : trim b.chars = [] := by
  rw [trim, ← List.append_nil b.chars, trimStart_append b.all stops_nil]
  rfl

/-- Blanks at the ends do not matter, whatever stands between them. -/
theorem trim_blanks_append (pre post : Blanks) (s : List Char) :
    trim (pre.chars ++ s ++ post.chars) = trim s := by
  obtain ⟨before, after, hs⟩ := eq_padded_trim s
  have hpre : ∀ c ∈ pre.chars ++ before.chars, isBlank c := fun c hc =>
    (List.mem_append.1 hc).elim (pre.all c) (before.all c)
  have hpost : ∀ c ∈ after.chars ++ post.chars, isBlank c := fun c hc =>
    (List.mem_append.1 hc).elim (after.all c) (post.all c)
  have hshape : pre.chars ++ s ++ post.chars =
      (pre.chars ++ before.chars) ++ trim s ++ (after.chars ++ post.chars) := by
    conv => lhs; rw [hs]
    simp only [List.append_assoc]
  rw [hshape]
  by_cases hnil : trim s = []
  · rw [hnil, List.append_nil]
    refine trim_of_blanks ⟨_, fun c hc => ?_⟩
    exact (List.mem_append.1 hc).elim (hpre c) (hpost c)
  · exact (tight_trim hnil).trim_padded ⟨_, hpre⟩ ⟨_, hpost⟩

section
variable {sep : Char}

/-- What is added to the end of a text is added to its last piece. -/
theorem exists_splitOn_append {b : List Char} (hb : sep ∉ b) (s : List Char) :
    ∃ ps p, splitOn sep s = ps ++ [p] ∧ splitOn sep (s ++ b) = ps ++ [p ++ b] := by
  induction s with
  | nil =>
    refine ⟨[], [], rfl, ?_⟩
    have h := splitOn_append_of_not_mem hb []
    rwa [List.append_nil, splitOn, Connective.foldr_consFirst, List.append_nil] at h
  | cons c s ih =>
    obtain ⟨ps, p, hs, hsb⟩ := ih
    rw [List.cons_append, splitOn, splitOn, hs, hsb]
    split
    · exact ⟨[] :: ps, p, rfl, rfl⟩
    · cases ps with
      | nil => exact ⟨[], c :: p, rfl, rfl⟩
      | cons q ps => exact ⟨(c :: q) :: ps, p, rfl, rfl⟩

/-- The pieces between separators that are no blanks are the same, up to blanks at their ends, with
and without the blanks at the ends of the whole. -/
theorem map_trim_splitOn_trim (hsep : isBlank sep = false) (s : List Char) :
    (splitOn sep (trim s)).map trim = (splitOn sep s).map trim := by
  have hmem : ∀ b : Blanks, sep ∉ b.chars := by
    intro b hb
    rw [b.all sep hb] at hsep
    cases hsep
  obtain ⟨pre, post, hs⟩ := eq_padded_trim s
  generalize trim s = t at hs
  rw [hs]
  obtain ⟨ps, p, ht, htp⟩ := exists_splitOn_append (hmem post) t
  have hlast : trim (p ++ post.chars) = trim p := trim_blanks_append ⟨[], nofun⟩ post p
  have hend : (splitOn sep (t ++ post.chars)).map trim = (splitOn sep t).map trim := by
    rw [htp, ht, List.map_append, List.map_append, List.map_singleton, List.map_singleton, hlast]
  obtain ⟨q, qs, hq⟩ := List.exists_cons_of_ne_nil (splitOn_spec sep (t ++ post.chars)).1
  have hfirst : trim (pre.chars ++ q) = trim q := by
    have h := trim_blanks_append pre ⟨[], nofun⟩ q
    rwa [List.append_nil] at h
  rw [← hend, List.append_assoc, splitOn_append_of_not_mem (hmem pre), hq,
    Connective.foldr_consFirst, List.map_cons, List.map_cons, hfirst]

end

end SurveyTables.Text
