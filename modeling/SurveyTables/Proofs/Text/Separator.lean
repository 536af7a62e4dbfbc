import SurveyTables.Proofs.Text.Blank
import SurveyTables.Text.Split

/-!
# Texts joined by separators

* `Cased w` : a spelling of the keyword `w`; `dropKeyword?_cased` reads it, `dropKeyword?_bind_*`
  say when a keyword is not read;
* `Spaced w` : the keyword with a gap on either side;
* `Connective.Spelling` : a separator as it may be written, its word or its symbol;
* `Joined k α` : one or more items with separators of `k` between them, and its `text`;
* `Connective.Passes k u` : no separator of `k` begins in `u`. `Joined.passes` : texts joined by one
  connective pass another one when their items do;
* `Joined.map_trim_split` : cutting a joined text gives back the items, up to blanks at their ends;
* `splitOnce?_append`, `splitOn_intercalate`, `splitOn_spec` : cutting at one character.
-/

namespace SurveyTables.Text

/-! ## Keywords -/

/-- A keyword in capitals, written with any mix of capital and small letters. -/
structure Cased (word : List Char) where
  chars : List Char
  upper : chars.map Char.toUpper = word

/-- A keyword with a gap on either side. -/
structure Spaced (word : List Char) where
  before : Run isBlank
  keyword : Cased word
  after : Run isBlank

def Spaced.text {word : List Char} (s : Spaced word) : List Char :=
  s.before.chars ++ s.keyword.chars ++ s.after.chars

theorem dropKeyword?_cased {word : List Char} (w : Cased word) (t : List Char) :
    dropKeyword? word (w.chars ++ t) = some t := by
  obtain ⟨chars, rfl⟩ := w
  induction chars with
  | nil => rfl
  | cons c chars ih =>
    show dropKeyword? (c.toUpper :: chars.map Char.toUpper) (c :: (chars ++ t)) = some t
    rw [dropKeyword?, if_pos rfl]
    exact ih

theorem Cased.ne_nil {word : List Char} (w : Cased word) (h : word ≠ []) : w.chars ≠ [] := by
  intro hw
  have hu := w.upper
  rw [hw, List.map_nil] at hu
  exact h hu.symm

section
variable {word : List Char} (hword : word.all Char.isUpper)
include hword

theorem isAlpha_of_toUpper_mem {c : Char} (hc : c.toUpper ∈ word) : c.isAlpha :=
  isAlpha_of_isUpper_toUpper (List.all_eq_true.1 hword _ hc)

theorem Cased.isAlpha (w : Cased word) {c : Char} (hc : c ∈ w.chars) : c.isAlpha := by
  refine isAlpha_of_toUpper_mem hword ?_
  rw [← w.upper]
  exact List.mem_map_of_mem hc

theorem Cased.tight (hne : word ≠ []) (w : Cased word) : Tight w.chars :=
  Tight.of_forall (w.ne_nil hne) fun _ hc => isBlank_of_isAlpha (w.isAlpha hword hc)

theorem dropKeyword?_of_stops (hne : word ≠ []) {t : List Char} (ht : Stops Char.isAlpha t) :
    dropKeyword? word t = none := by
  cases word with
  | nil => exact absurd rfl hne
  | cons a word =>
    cases t with
    | nil => rfl
    | cons c t =>
      rw [dropKeyword?, if_neg]
      intro hc
      have hca := isAlpha_of_toUpper_mem hword (List.mem_cons.2 (Or.inl hc))
      rw [stops_cons.1 ht] at hca
      cases hca

/-- No keyword and gap begin a text whose first word is more than letters. -/
theorem dropKeyword?_bind_of_not_isAlpha {u : List Char} (hu : ∀ c ∈ u, isBlank c = false)
    (hx : ∃ c ∈ u, c.isAlpha = false) (t : List Char) :
    (dropKeyword? word (u ++ t)).bind skipBlanks? = none := by
  obtain ⟨x, hx, hxa⟩ := hx
  induction word generalizing u with
  | nil => exact skipBlanks?_of_stops ((stops_of_forall hu).append (List.ne_nil_of_mem hx) t)
  | cons a word ih =>
    cases u with
    | nil => cases hx
    | cons c u =>
      rw [List.cons_append, dropKeyword?]
      split
      · rename_i hc
        have hca : c.isAlpha := isAlpha_of_toUpper_mem hword (List.mem_cons.2 (Or.inl hc))
        rcases List.mem_cons.1 hx with rfl | hx
        · rw [hca] at hxa
          cases hxa
        · exact ih (Bool.and_eq_true_iff.1 hword).2
            (fun d hd => hu d (List.mem_cons_of_mem c hd)) hx
      · rfl

/-- A keyword and a gap can only begin a text whose first word is that keyword. -/
theorem dropKeyword?_bind_gap {u : List Char} (hu : ∀ c ∈ u, isBlank c = false) (g : Run isBlank)
    (t : List Char) :
    (dropKeyword? word (u ++ (g.chars ++ t))).bind skipBlanks? = none ∨
      (dropKeyword? word (u ++ (g.chars ++ t))).bind skipBlanks? = skipBlanks? (g.chars ++ t) := by
  induction word generalizing u with
  | nil =>
    cases u with
    | nil => exact Or.inr rfl
    | cons c u =>
      have hc : Stops isBlank (c :: u ++ (g.chars ++ t)) := stops_cons.2 (hu c List.mem_cons_self)
      exact Or.inl (skipBlanks?_of_stops hc)
  | cons a word ih =>
    cases u with
    | nil =>
      have hg : Stops Char.isAlpha (g.chars ++ t) := g.stops (fun c hc => isAlpha_of_isBlank hc) t
      rw [List.nil_append, dropKeyword?_of_stops hword (List.cons_ne_nil a word) hg]
      exact Or.inl rfl
    | cons c u =>
      rw [List.cons_append, dropKeyword?]
      split
      · exact ih (Bool.and_eq_true_iff.1 hword).2
          (fun d hd => hu d (List.mem_cons_of_mem c hd))
      · exact Or.inl rfl

end

/-! ## Separators -/

namespace Connective

/-- A separator of the connective: its word with gaps around it, or its symbol with or without
blanks around it. -/
inductive Spelling (k : Connective) where
  | word (w : Spaced k.word)
  | symbol (before after : Blanks)

namespace Spelling
variable {k : Connective}

/-- What stands in front of the word or the symbol. -/
def before : k.Spelling → Blanks
  | .word w => w.before.blanks
  | .symbol before _ => before

/-- The word or the symbol. -/
def core : k.Spelling → List Char
  | .word w => w.keyword.chars
  | .symbol _ _ => [k.symbol]

/-- What stands behind the word or the symbol. -/
def after : k.Spelling → Blanks
  | .word w => w.after.blanks
  | .symbol _ after => after

def text (s : k.Spelling) : List Char := s.before.chars ++ s.core ++ s.after.chars

end Spelling

/-- The word is made of capital letters, and the symbol is neither a blank nor a letter. -/
structure Plain (k : Connective) : Prop where
  word_isUpper : k.word.all Char.isUpper
  word_ne_nil : k.word ≠ []
  isBlank_symbol : isBlank k.symbol = false
  isAlpha_symbol : k.symbol.isAlpha = false

section
variable {k l : Connective} {t : List Char}

theorem Spelling.isBlank_core (hl : l.Plain) (s : l.Spelling) :
    ∀ c ∈ s.core, isBlank c = false := by
  intro c hc
  cases s with
  | word w => exact isBlank_of_isAlpha (w.keyword.isAlpha hl.word_isUpper hc)
  | symbol before after => exact List.mem_singleton.1 hc ▸ hl.isBlank_symbol

theorem Spelling.tight_core (hl : l.Plain) (s : l.Spelling) : Tight s.core := by
  refine Tight.of_forall ?_ (s.isBlank_core hl)
  cases s with
  | word w => exact w.keyword.ne_nil hl.word_ne_nil
  | symbol before after => exact List.cons_ne_nil _ _

/-- A separator is not taken for a keyword with another first letter. -/
theorem Spelling.dropKeyword?_core (hl : l.Plain) (s : l.Spelling) {word : List Char}
    (hword : word.all Char.isUpper) (hne : word ≠ []) (hhead : word.head? ≠ l.word.head?)
    (t : List Char) : dropKeyword? word (s.core ++ t) = none := by
  cases s with
  | symbol before after =>
    exact dropKeyword?_of_stops hword hne (by simpa [core] using hl.isAlpha_symbol)
  | word w =>
    obtain ⟨before, ⟨chars, hw⟩, after⟩ := w
    rw [← hw] at hhead
    cases word with
    | nil => exact absurd rfl hne
    | cons a word =>
      cases chars with
      | nil => exact absurd hw.symm hl.word_ne_nil
      | cons c chars =>
        refine if_neg fun hc => hhead ?_
        rw [List.map_cons, List.head?_cons, List.head?_cons, hc]

/-! ## Cutting -/

theorem foldr_consFirst (u p : List Char) (ps : List (List Char)) :
    u.foldr consFirst (p :: ps) = (u ++ p) :: ps := by
  induction u with
  | nil => rfl
  | cons c u ih => rw [List.foldr_cons, ih, consFirst, List.cons_append]

theorem split_of_drop? {s r : List Char} (h : k.drop? s = some r) :
    k.split s = [] :: k.split r := by
  cases s with
  | nil => cases h
  | cons c s =>
    rw [split]
    split
    · rename_i r' hr
      rw [h] at hr
      obtain rfl := Option.some.inj hr
      rfl
    · rename_i hr
      rw [h] at hr
      cases hr

theorem split_cons {c : Char} (h : k.drop? (c :: t) = none) :
    k.split (c :: t) = consFirst c (k.split t) := by
  rw [split]
  split
  · rename_i r hr
    rw [h] at hr
    cases hr
  · rfl

theorem split_append_of_forall {u : List Char}
    (hu : ∀ c ∈ u, isBlank c = false ∧ c ≠ k.symbol) (t : List Char) :
    k.split (u ++ t) = u.foldr consFirst (k.split t) := by
  induction u with
  | nil => rfl
  | cons c u ih =>
    obtain ⟨hb, hs⟩ := hu c List.mem_cons_self
    have hdrop : k.drop? (c :: (u ++ t)) = none := by
      rw [drop?, if_neg (by simp [hb]), if_neg hs]
    rw [List.cons_append, split_cons hdrop, ih fun d hd => hu d (List.mem_cons_of_mem c hd)]
    rfl

/-- Blanks in front of a text that is no keyword and gap stay where they are. -/
theorem split_blanks (b : Blanks) (ht : Stops isBlank t)
    (hk : (dropKeyword? k.word t).bind skipBlanks? = none) :
    k.split (b.chars ++ t) = b.chars.foldr consFirst (k.split t) := by
  obtain ⟨b, hb⟩ := b
  induction b with
  | nil => rfl
  | cons c b ih =>
    have hbs : ∀ d ∈ b, isBlank d := fun d hd => hb d (List.mem_cons_of_mem c hd)
    have hdrop : k.drop? (c :: (b ++ t)) = none := by
      rw [drop?, if_pos (hb c List.mem_cons_self), trimStart_append hbs ht, hk]
    rw [List.cons_append, split_cons hdrop, ih hbs]
    rfl

theorem split_word (w : Spaced k.word) (hk : k.Plain) (ht : Stops isBlank t) :
    k.split ((Spelling.word w).text ++ t) = [] :: k.split t := by
  refine split_of_drop? ?_
  have hcore : Stops isBlank (w.keyword.chars ++ (w.after.chars ++ t)) :=
    (w.keyword.tight hk.word_isUpper hk.word_ne_nil).stops _
  obtain ⟨⟨before, hne, hb⟩, w, after⟩ := w
  cases before with
  | nil => exact absurd rfl hne
  | cons c before =>
    show k.drop? (c :: (before ++ w.chars ++ after.chars) ++ t) = some t
    rw [List.cons_append, List.append_assoc, List.append_assoc, drop?,
      if_pos (hb c List.mem_cons_self),
      trimStart_append (fun d hd => hb d (List.mem_cons_of_mem c hd)) hcore, dropKeyword?_cased,
      Option.bind_some, after.skipBlanks? ht]

theorem split_symbol (before after : Blanks) (hk : k.Plain) (t : List Char) :
    k.split ((Spelling.symbol (k := k) before after).text ++ t) =
      before.chars :: k.split (after.chars ++ t) := by
  have htext : (Spelling.symbol (k := k) before after).text ++ t =
      before.chars ++ k.symbol :: (after.chars ++ t) := by
    simp [Spelling.text, Spelling.before, Spelling.core, Spelling.after]
  have hword : dropKeyword? k.word (k.symbol :: (after.chars ++ t)) = none :=
    dropKeyword?_of_stops hk.word_isUpper hk.word_ne_nil (stops_cons.2 hk.isAlpha_symbol)
  have hdrop : k.drop? (k.symbol :: (after.chars ++ t)) = some (after.chars ++ t) := by
    rw [drop?, if_neg (by simp [hk.isBlank_symbol]), if_pos rfl]
  rw [htext, split_blanks before (stops_cons.2 hk.isBlank_symbol) (by rw [hword]; rfl),
    split_of_drop? hdrop, foldr_consFirst, List.append_nil]

theorem split_of_blanks (b : Blanks) (hk : k.Plain) : k.split b.chars = [b.chars] := by
  have hnil : dropKeyword? k.word [] = none :=
    dropKeyword?_of_stops hk.word_isUpper hk.word_ne_nil stops_nil
  have h := split_blanks (k := k) b stops_nil (by rw [hnil]; rfl)
  rwa [List.append_nil, split, foldr_consFirst, List.append_nil] at h

/-! ## Texts without separators -/

/-- However the text goes on, no separator of the connective begins in it. -/
structure Passes (k : Connective) (u : List Char) : Prop where
  tight : Tight u
  not_word : ∀ t, (dropKeyword? k.word (u ++ t)).bind skipBlanks? = none
  split_append : ∀ t, k.split (u ++ t) = u.foldr consFirst (k.split t)

theorem Passes.split_padded {u : List Char} (h : k.Passes u) (pre : Blanks) (t : List Char) :
    k.split (pre.chars ++ u ++ t) = (pre.chars ++ u).foldr consFirst (k.split t) := by
  rw [List.append_assoc, split_blanks pre (h.tight.stops t) (h.not_word t), h.split_append,
    List.foldr_append]

theorem passes_of_forall (hk : k.Plain) {u : List Char}
    (hu : ∀ c ∈ u, isBlank c = false ∧ c ≠ k.symbol) (hx : ∃ c ∈ u, c.isAlpha = false) :
    k.Passes u where
  tight := Tight.of_forall (List.ne_nil_of_mem hx.choose_spec.1) fun c hc => (hu c hc).1
  not_word := dropKeyword?_bind_of_not_isAlpha hk.word_isUpper (fun c hc => (hu c hc).1) hx
  split_append := split_append_of_forall hu

/-- Two connectives with different symbols and words with different first letters. -/
structure Apart (k l : Connective) : Prop where
  symbol_ne : k.symbol ≠ l.symbol
  head?_ne : k.word.head? ≠ l.word.head?

/-- A separator of another connective stays where it is. -/
theorem split_other (hk : k.Plain) (hl : l.Plain) (hkl : k.Apart l) (s : l.Spelling)
    {u : List Char} (hu : k.Passes u) (t : List Char) :
    k.split (s.text ++ (u ++ t)) = s.text.foldr consFirst (k.split (u ++ t)) := by
  have hcore : ∀ c ∈ s.core, isBlank c = false ∧ c ≠ k.symbol := by
    intro c hc
    refine ⟨s.isBlank_core hl c hc, fun hck => ?_⟩
    cases s with
    | word w =>
      have ha := w.keyword.isAlpha hl.word_isUpper hc
      rw [hck, hk.isAlpha_symbol] at ha
      cases ha
    | symbol before after => exact hkl.symbol_ne (hck ▸ List.mem_singleton.1 hc)
  have hstops : Stops isBlank (s.core ++ (s.after.chars ++ (u ++ t))) := (s.tight_core hl).stops _
  have hword : dropKeyword? k.word (s.core ++ (s.after.chars ++ (u ++ t))) = none :=
    s.dropKeyword?_core hl hk.word_isUpper hk.word_ne_nil hkl.head?_ne _
  rw [Spelling.text, List.append_assoc, List.append_assoc,
    split_blanks s.before hstops (by rw [hword]; rfl), split_append_of_forall hcore,
    split_blanks s.after (hu.tight.stops t) (hu.not_word t), List.foldr_append, List.foldr_append]

end

end Connective

/-! ## Joined texts -/

/-- One or more items with separators of a connective between them. -/
inductive Joined (k : Connective) (α : Type) where
  | single (x : α)
  | cons (x : α) (s : k.Spelling) (j : Joined k α)

namespace Joined

section
variable {k : Connective} {α β : Type}

/-- The items in order. -/
def items : Joined k α → List α
  | .single x => [x]
  | .cons x _ j => x :: j.items

def text (f : α → List Char) : Joined k α → List Char
  | .single x => f x
  | .cons x s j => f x ++ s.text ++ j.text f

/-- The items of both, with a separator between them. -/
def append : Joined k α → k.Spelling → Joined k α → Joined k α
  | .single x, s, j₂ => .cons x s j₂
  | .cons x t j, s, j₂ => .cons x t (j.append s j₂)

/-- Every item replaced by joined items. -/
def bind (g : α → Joined k β) : Joined k α → Joined k β
  | .single x => g x
  | .cons x s j => (g x).append s (j.bind g)

theorem items_append (s : k.Spelling) (j j₂ : Joined k α) :
    (j.append s j₂).items = j.items ++ j₂.items := by
  induction j with
  | single x => rfl
  | cons x t j ih => rw [append, items, items, ih, List.cons_append]

theorem text_append (f : α → List Char) (s : k.Spelling) (j j₂ : Joined k α) :
    (j.append s j₂).text f = j.text f ++ s.text ++ j₂.text f := by
  induction j with
  | single x => rfl
  | cons x t j ih => simp only [append, text, ih, List.append_assoc]

theorem items_bind (g : α → Joined k β) (j : Joined k α) :
    (j.bind g).items = j.items.flatMap fun x => (g x).items := by
  induction j with
  | single x => simp [bind, items]
  | cons x s j ih => rw [bind, items_append, ih, items, List.flatMap_cons]

theorem text_bind (f : β → List Char) (g : α → Joined k β) (j : Joined k α) :
    (j.bind g).text f = j.text fun x => (g x).text f := by
  induction j with
  | single x => rfl
  | cons x s j ih => rw [bind, text_append, ih, text]

theorem tight_text {f : α → List Char} (j : Joined k α) (hf : ∀ x ∈ j.items, Tight (f x)) :
    Tight (j.text f) := by
  induction j with
  | single x => exact hf x List.mem_cons_self
  | cons x s j ih =>
    exact (hf x List.mem_cons_self).append s.text (ih fun y hy => hf y (List.mem_cons_of_mem x hy))

end

section
variable {k l : Connective} {α : Type} {f : α → List Char}

/-- Cutting a text joined by the connective gives back its items, up to blanks at their ends. -/
theorem map_trim_split (hk : k.Plain) (j : Joined k α) (hf : ∀ x ∈ j.items, k.Passes (f x))
    (pre post : Blanks) :
    (k.split (pre.chars ++ j.text f ++ post.chars)).map trim = j.items.map f := by
  induction j generalizing pre with
  | single x =>
    have hx := hf x List.mem_cons_self
    rw [text, hx.split_padded, Connective.split_of_blanks post hk, Connective.foldr_consFirst,
      List.map_singleton, hx.tight.trim_padded, items, List.map_singleton]
  | cons x s j ih =>
    have hx := hf x List.mem_cons_self
    have hj : ∀ y ∈ j.items, k.Passes (f y) := fun y hy => hf y (List.mem_cons_of_mem x hy)
    have hshape : pre.chars ++ (cons x s j).text f ++ post.chars =
        pre.chars ++ f x ++ (s.text ++ (j.text f ++ post.chars)) := by
      simp only [text, List.append_assoc]
    rw [hshape, hx.split_padded, items, List.map_cons]
    cases s with
    | word w =>
      have hstops : Stops isBlank (j.text f ++ post.chars) :=
        (tight_text j fun y hy => (hj y hy).tight).stops _
      have htrim := hx.tight.trim_padded pre ⟨[], by simp⟩
      have hrest := ih hj ⟨[], by simp⟩
      rw [List.nil_append] at hrest
      rw [Connective.split_word w hk hstops, Connective.foldr_consFirst,
        List.map_cons, hrest, htrim]
    | symbol before after =>
      have hrest := ih hj after
      rw [List.append_assoc] at hrest
      rw [Connective.split_symbol before after hk, Connective.foldr_consFirst, List.map_cons,
        hrest, hx.tight.trim_padded]

/-- A text joined by one connective passes another one when its items do. -/
theorem passes (hk : k.Plain) (hl : l.Plain) (hkl : k.Apart l) (j : Joined l α)
    (hf : ∀ x ∈ j.items, k.Passes (f x)) : k.Passes (j.text f) := by
  induction j with
  | single x => exact hf x List.mem_cons_self
  | cons x s j ih =>
    have hx := hf x List.mem_cons_self
    have hj := ih fun y hy => hf y (List.mem_cons_of_mem x hy)
    refine ⟨hx.tight.append s.text hj.tight, fun t => ?_, fun t => ?_⟩
    · rw [text, List.append_assoc, List.append_assoc]
      exact hx.not_word _
    · rw [text, List.append_assoc, List.append_assoc, hx.split_append,
        Connective.split_other hk hl hkl s hj, hj.split_append, List.foldr_append,
        List.foldr_append]

end

end Joined

/-! ## Cutting at one character -/

section
variable {sep : Char} {u : List Char}

theorem splitOnce?_of_not_mem (h : sep ∉ u) : splitOnce? sep u = none := by
  induction u with
  | nil => rfl
  | cons c u ih =>
    have hc : c ≠ sep := fun e => h (e ▸ List.mem_cons_self)
    rw [splitOnce?, if_neg hc, ih fun hu => h (List.mem_cons_of_mem c hu), Option.map_none]

theorem splitOnce?_append (h : sep ∉ u) (t : List Char) :
    splitOnce? sep (u ++ sep :: t) = some (u, t) := by
  induction u with
  | nil => exact if_pos rfl
  | cons c u ih =>
    have hc : c ≠ sep := fun e => h (e ▸ List.mem_cons_self)
    rw [List.cons_append, splitOnce?, if_neg hc, ih fun hu => h (List.mem_cons_of_mem c hu),
      Option.map_some]

theorem of_splitOnce? {s t : List Char} (h : splitOnce? sep s = some (u, t)) :
    sep ∉ u ∧ s = u ++ sep :: t := by
  induction s generalizing u with
  | nil => cases h
  | cons c s ih =>
    rw [splitOnce?] at h
    split at h
    · rename_i hc
      obtain ⟨rfl, rfl⟩ := Prod.mk.inj (Option.some.inj h)
      exact ⟨List.not_mem_nil, by rw [hc, List.nil_append]⟩
    · rename_i hc
      obtain ⟨⟨v, w⟩, hv, he⟩ := Option.map_eq_some_iff.1 h
      obtain ⟨rfl, rfl⟩ := Prod.mk.inj he
      obtain ⟨hmem, rfl⟩ := ih hv
      refine ⟨fun hs => ?_, rfl⟩
      rcases List.mem_cons.1 hs with hs | hs
      · exact hc hs.symm
      · exact hmem hs

theorem splitOn_append_of_not_mem (h : sep ∉ u) (t : List Char) :
    splitOn sep (u ++ t) = u.foldr consFirst (splitOn sep t) := by
  induction u with
  | nil => rfl
  | cons c u ih =>
    have hc : c ≠ sep := fun e => h (e ▸ List.mem_cons_self)
    rw [List.cons_append, splitOn, if_neg hc, ih fun hu => h (List.mem_cons_of_mem c hu),
      List.foldr_cons]

/-- Cutting texts with the character between them gives back the texts. -/
theorem splitOn_intercalate {l : List (List Char)} (hne : l ≠ []) (h : ∀ u ∈ l, sep ∉ u) :
    splitOn sep ([sep].intercalate l) = l := by
  induction l with
  | nil => exact absurd rfl hne
  | cons u l ih =>
    have hu := h u List.mem_cons_self
    cases l with
    | nil =>
      have hend := splitOn_append_of_not_mem hu []
      rw [List.intercalate_singleton]
      rwa [List.append_nil, splitOn, Connective.foldr_consFirst, List.append_nil] at hend
    | cons v l =>
      have hrest := ih (List.cons_ne_nil v l) fun w hw => h w (List.mem_cons_of_mem u hw)
      rw [List.intercalate_cons_cons, List.append_assoc, splitOn_append_of_not_mem hu,
        List.singleton_append, splitOn, if_pos rfl, hrest, Connective.foldr_consFirst,
        List.append_nil]

theorem intercalate_consFirst (c : Char) (ps : List (List Char)) :
    [sep].intercalate (consFirst c ps) = c :: [sep].intercalate ps := by
  match ps with
  | [] => rfl
  | [p] => rw [consFirst, List.intercalate_singleton, List.intercalate_singleton]
  | p :: q :: ps =>
    rw [consFirst, List.intercalate_cons_cons, List.intercalate_cons_cons, List.cons_append,
      List.cons_append]

/-- The pieces do not contain the character, and with it between them they are the text. -/
theorem splitOn_spec (sep : Char) (s : List Char) :
    splitOn sep s ≠ [] ∧ (∀ p ∈ splitOn sep s, sep ∉ p) ∧
      [sep].intercalate (splitOn sep s) = s := by
  induction s with
  | nil => exact ⟨List.cons_ne_nil _ _, by simp [splitOn], List.intercalate_singleton⟩
  | cons c s ih =>
    obtain ⟨hne, hmem, hjoin⟩ := ih
    obtain ⟨p, ps, hps⟩ := List.exists_cons_of_ne_nil hne
    rw [splitOn]
    split
    · rename_i hc
      refine ⟨List.cons_ne_nil _ _, fun q hq => ?_, ?_⟩
      · rcases List.mem_cons.1 hq with rfl | hq
        · exact List.not_mem_nil
        · exact hmem q hq
      · rw [hps, List.intercalate_cons_cons, ← hps, hjoin, hc]
        rfl
    · rename_i hc
      refine ⟨by rw [hps]; exact List.cons_ne_nil _ _, fun q hq => ?_, ?_⟩
      · rw [hps, consFirst] at hq
        rw [hps] at hmem
        rcases List.mem_cons.1 hq with rfl | hq
        · intro hs
          rcases List.mem_cons.1 hs with hs | hs
          · exact hc hs.symm
          · exact hmem p List.mem_cons_self hs
        · exact hmem q (List.mem_cons_of_mem p hq)
      · rw [intercalate_consFirst, hjoin]

end

end SurveyTables.Text
