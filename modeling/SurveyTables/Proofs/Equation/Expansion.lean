import SurveyTables.Proofs.Equation.Grammar

/-!
# Writing out the clauses of a well-formed equation

* `read?_clause` : a clause is read where it stands;
* `Inert t` : no clause is completed by the text `t` behind a word. `read?_of_inert`,
  `expandBetween_of_inert` : so a text without blanks in front of it stays as it is;
* `Expands u v` : in front of an inert text, `u` is written out as `v`. `Comparison.expands`,
  `Clause.expands`, `expands_joined` : the two kinds of pieces, and pieces joined by separators;
* `Sentence.expandBetween_text` : every clause of a sentence becomes its two comparisons, and
  nothing else changes.
-/

namespace SurveyTables.Equation

open Text Between

/-! ## Characters between pieces -/

/-- The text ends or goes on with a blank or the symbol of a connective. -/
def Boundary (t : List Char) : Prop := ∀ c ∈ t.head?, isBoundaryChar c

/-- The characters that continue a number. -/
def isNumberChar (c : Char) : Bool := isDecimalDigit c || c == '.'

theorem isWordChar_of_isBoundaryChar {c : Char} (h : isBoundaryChar c) : isWordChar c = false := by
  simp only [isBoundaryChar, Bool.or_eq_true, beq_iff_eq] at h
  rcases h with (h | rfl) | rfl
  · exact isWordChar_of_isBlank h
  · decide +kernel
  · decide +kernel

theorem isNumberChar_of_isBoundaryChar {c : Char} (h : isBoundaryChar c) :
    isNumberChar c = false := by
  simp only [isBoundaryChar, Bool.or_eq_true, beq_iff_eq] at h
  rcases h with (h | rfl) | rfl
  · have hc : c ≠ '.' := by
      rintro rfl
      revert h
      decide
    simp [isNumberChar, isDecimalDigit_of_isBlank h, hc]
  · decide +kernel
  · decide +kernel

theorem isWordChar_of_isNameChar {c : Char} (h : isNameChar c) : isWordChar c := by
  simp only [isNameChar, Bool.or_eq_true, beq_iff_eq] at h
  rcases h with ((h | rfl) | rfl) | rfl
  · exact forall_ascii (P := fun c => c.isAlphanum → isWordChar c) (by decide +kernel)
      (toNat_lt_of_isAlphanum h) h
  · decide +kernel
  · decide +kernel
  · decide +kernel

theorem isNameChar_of_isWordChar_eq_false {c : Char} (h : isWordChar c = false) :
    isNameChar c = false := by
  rw [Bool.eq_false_iff]
  intro hc
  rw [isWordChar_of_isNameChar hc] at h
  cases h

theorem isNameChar_of_isBoundaryChar {c : Char} (h : isBoundaryChar c) : isNameChar c = false :=
  isNameChar_of_isWordChar_eq_false (isWordChar_of_isBoundaryChar h)

theorem isNameChar_of_isCodeChar {c : Char} (h : Condition.isCodeChar c) : isNameChar c := by
  rw [Condition.isCodeChar] at h
  rw [isNameChar, h, Bool.true_or, Bool.true_or]

theorem Boundary.stops {p : Char → Bool} {t : List Char} (h : Boundary t)
    (hp : ∀ c, isBoundaryChar c → p c = false) : Stops p t :=
  fun c hc => hp c (h c hc)

theorem boundary_cons {c : Char} (h : isBoundaryChar c) (t : List Char) : Boundary (c :: t) := by
  rintro d ⟨⟩
  exact h

theorem boundary_run (g : Run isBlank) (t : List Char) : Boundary (g.chars ++ t) := by
  obtain ⟨b, hne, hb⟩ := g
  cases b with
  | nil => exact absurd rfl hne
  | cons c b =>
    rintro d ⟨⟩
    exact isBoundaryChar_of_isBlank (hb c List.mem_cons_self)

theorem boundary_spaced {word : List Char} (s : Spaced word) (t : List Char) :
    Boundary (s.text ++ t) := by
  rw [Spaced.text, List.append_assoc, List.append_assoc]
  exact boundary_run s.before _

theorem boundary_separator {k : Connective} (hk : isBoundaryChar k.symbol) (s : k.Spelling)
    (t : List Char) : Boundary (s.text ++ t) := by
  cases s with
  | word w => exact boundary_spaced w t
  | symbol before after =>
    obtain ⟨b, hb⟩ := before
    cases b with
    | nil =>
      rintro d ⟨⟩
      exact hk
    | cons c b =>
      rintro d ⟨⟩
      exact isBoundaryChar_of_isBlank (hb c List.mem_cons_self)

/-! ## Reading a clause -/

theorem skipWord?_spaced {word : List Char} (hword : word.all Char.isUpper) (hne : word ≠ [])
    (s : Spaced word) {t : List Char} (ht : Stops isBlank t) :
    skipWord? word (s.text ++ t) = some t := by
  have hkey : Stops isBlank (s.keyword.chars ++ (s.after.chars ++ t)) :=
    (s.keyword.tight hword hne).stops _
  show (skipBlanks? (s.text ++ t)).bind (fun r => (dropKeyword? word r).bind skipBlanks?) = some t
  rw [Spaced.text, List.append_assoc, List.append_assoc, s.before.skipBlanks? hkey,
    Option.bind_some, dropKeyword?_cased, Option.bind_some, s.after.skipBlanks? ht]

theorem takeSign_cons {c : Char} (h : c ≠ '-') (t : List Char) :
    takeSign (c :: t) = ([], c :: t) := by
  unfold takeSign
  split
  · rename_i hs
    exact absurd (List.cons.inj hs).1 h
  · rfl

theorem takeSign_numeral (n : Numeral) (t : List Char) :
    takeSign (n.sign ++ (n.whole.chars ++ t)) = (n.sign, n.whole.chars ++ t) := by
  obtain ⟨negative, ⟨digits, hne, hd⟩, fraction⟩ := n
  cases negative with
  | true => rfl
  | false =>
    cases digits with
    | nil => exact absurd rfl hne
    | cons d digits =>
      refine takeSign_cons ?_ (digits ++ t)
      rintro rfl
      exact absurd (hd '-' List.mem_cons_self) (by decide)

theorem takeFraction_numeral (n : Numeral) {t : List Char} (ht : Stops isNumberChar t) :
    takeFraction (n.fractionText ++ t) = (n.fractionText, t) := by
  obtain ⟨negative, whole, fraction⟩ := n
  cases fraction with
  | none =>
    show takeFraction t = ([], t)
    unfold takeFraction
    split
    · exact absurd (stops_cons.1 ht) (by decide)
    · rfl
  | some f =>
    have hstop : Stops isDecimalDigit t := fun c hc => (Bool.or_eq_false_iff.1 (ht c hc)).1
    have hf : ∀ c ∈ f.chars, isDecimalDigit c := fun c hc => isDecimalDigit_of_isDigit (f.all c hc)
    show takeFraction ('.' :: (f.chars ++ t)) = ('.' :: f.chars, t)
    rw [takeFraction, hstop.takeWhile hf, hstop.dropWhile hf, if_neg (by simp [f.ne_nil])]

/-- A numeral is read as far as it goes. -/
theorem takeNumber?_numeral (n : Numeral) {t : List Char} (ht : Stops isNumberChar t) :
    takeNumber? (n.text ++ t) = some (n.text, t) := by
  have hwhole : ∀ c ∈ n.whole.chars, isDecimalDigit c :=
    fun c hc => isDecimalDigit_of_isDigit (n.whole.all c hc)
  have hstop : Stops isDecimalDigit (n.fractionText ++ t) := by
    obtain ⟨negative, whole, fraction⟩ := n
    cases fraction with
    | none => exact fun c hc => (Bool.or_eq_false_iff.1 (ht c hc)).1
    | some f => exact stops_cons.2 (by decide +kernel)
  have hshape : n.text ++ t = n.sign ++ (n.whole.chars ++ (n.fractionText ++ t)) := by
    simp only [Numeral.text, List.append_assoc]
  rw [hshape, takeNumber?, takeSign_numeral, hstop.takeWhile hwhole, hstop.dropWhile hwhole,
    takeFraction_numeral n ht]
  exact if_neg (by simp [n.whole.ne_nil])

theorem read?_eq (s : List Char) :
    Between.read? s =
      if (s.takeWhile isNameChar).isEmpty then none else
        (skipWord? "BETWEEN".toList (s.dropWhile isNameChar)).bind fun s₁ =>
          (takeNumber? s₁).bind fun low =>
            (skipWord? "AND".toList low.2).bind fun s₂ =>
              (takeNumber? s₂).bind fun high =>
                some (⟨s.takeWhile isNameChar, low.1, high.1⟩, high.2) := by
  rw [Between.read?]
  split <;> rfl

/-- The clause as it is read. -/
def Clause.read (c : Clause) : Between := ⟨c.code.chars, c.low.text, c.high.text⟩

/-- A clause is read where it stands. -/
theorem read?_clause (c : Clause) {t : List Char} (ht : Boundary t) :
    Between.read? (c.text ++ t) = some (c.read, t) := by
  have hname : ∀ x ∈ c.code.chars, isNameChar x :=
    fun x hx => isNameChar_of_isCodeChar (c.code.all x hx)
  have hgap : Stops isNameChar
      (c.between.text ++ (c.low.text ++ (c.and.text ++ (c.high.text ++ t)))) :=
    (boundary_spaced _ _).stops fun x => isNameChar_of_isBoundaryChar
  have hand : Stops isNumberChar (c.and.text ++ (c.high.text ++ t)) :=
    (boundary_spaced _ _).stops fun x => isNumberChar_of_isBoundaryChar
  have hend : Stops isNumberChar t := ht.stops fun x => isNumberChar_of_isBoundaryChar
  have hshape : c.text ++ t =
      c.code.chars ++ (c.between.text ++ (c.low.text ++ (c.and.text ++ (c.high.text ++ t)))) := by
    simp only [Clause.text, List.append_assoc]
  rw [hshape, read?_eq, hgap.takeWhile hname, hgap.dropWhile hname,
    if_neg (by simp [c.code.ne_nil]),
    skipWord?_spaced (by decide) (by decide) c.between (c.low.tight.stops _), Option.bind_some,
    takeNumber?_numeral c.low hand, Option.bind_some,
    skipWord?_spaced (by decide) (by decide) c.and (c.high.tight.stops _), Option.bind_some,
    takeNumber?_numeral c.high hend]
  rfl

/-! ## Texts in which no clause is completed -/

/-- Behind a word, the text does not go on with `BETWEEN` and a number. -/
structure Inert (t : List Char) : Prop where
  boundary : Boundary t
  not_clause : (skipWord? "BETWEEN".toList t).bind takeNumber? = none

theorem skipWord?_bind (word t : List Char) :
    (skipWord? word t).bind takeNumber? =
      (skipBlanks? t).bind fun s => ((dropKeyword? word s).bind skipBlanks?).bind takeNumber? := by
  show ((skipBlanks? t).bind fun s => (dropKeyword? word s).bind skipBlanks?).bind takeNumber? = _
  rw [Option.bind_assoc]

theorem inert_nil : Inert [] :=
  ⟨by rintro c ⟨⟩, rfl⟩

/-- A separator is no `BETWEEN`. -/
theorem inert_separator {k : Connective} (hk : k.Plain) (hs : isBoundaryChar k.symbol)
    (hb : "BETWEEN".toList.head? ≠ k.word.head?) (s : k.Spelling) (t : List Char) :
    Inert (s.text ++ t) := by
  refine ⟨boundary_separator hs s t, ?_⟩
  have hword : dropKeyword? "BETWEEN".toList (s.core ++ (s.after.chars ++ t)) = none :=
    s.dropKeyword?_core hk (by decide) (by decide) hb _
  have hcore : Stops isBlank (s.core ++ (s.after.chars ++ t)) := (s.tight_core hk).stops _
  rw [skipWord?_bind, Connective.Spelling.text, List.append_assoc, List.append_assoc]
  by_cases hne : s.before.chars = []
  · rw [hne, List.nil_append, skipBlanks?_of_stops hcore, Option.bind_none]
  · rw [skipBlanks?_append hne s.before.all hcore, Option.bind_some, hword]
    rfl

theorem read?_of_inert {u t : List Char} (hu : ∀ c ∈ u, isBlank c = false) (ht : Inert t) :
    Between.read? (u ++ t) = none := by
  have hstop : Stops isNameChar t := ht.boundary.stops fun c => isNameChar_of_isBoundaryChar
  rw [read?_eq]
  split
  · rfl
  · rw [List.dropWhile_append]
    split
    · -- the whole of `u` is a name, and `t` does not go on with the rest of a clause
      rw [hstop.dropWhile_eq]
      cases hs : skipWord? "BETWEEN".toList t with
      | none => rfl
      | some s =>
        have hn : takeNumber? s = none := by
          have h := ht.not_clause
          rwa [hs] at h
        rw [Option.bind_some, hn, Option.bind_none]
    · -- the name ends inside `u`, and no blank follows it
      rename_i hne
      have hrest : Stops isBlank (u.dropWhile isNameChar ++ t) :=
        (stops_of_forall fun c hc => hu c (List.dropWhile_subset _ hc)).append
          (by simpa using hne) t
      have hskip : skipWord? "BETWEEN".toList (u.dropWhile isNameChar ++ t) = none := by
        show (skipBlanks? _).bind _ = none
        rw [skipBlanks?_of_stops hrest, Option.bind_none]
      rw [hskip, Option.bind_none]

theorem expandBetween_cons {w : Bool} {c : Char} {t : List Char}
    (h : w = true ∨ Between.read? (c :: t) = none) :
    expandBetween w (c :: t) = c :: expandBetween (isWordChar c) t := by
  rw [expandBetween]
  split
  · rename_i b rest hr
    rcases h with rfl | h
    · cases hr
    · simp [h] at hr
  · rfl

theorem expandBetween_of_read? {s rest : List Char} {b : Between}
    (h : Between.read? s = some (b, rest)) :
    expandBetween false s = b.conditionsText ++ expandBetween true rest := by
  cases s with
  | nil => cases h
  | cons c s =>
    rw [expandBetween]
    split
    · rename_i hr
      rw [if_neg Bool.false_ne_true, h] at hr
      obtain ⟨rfl, rfl⟩ := Prod.mk.inj (Option.some.inj hr)
      rfl
    · rename_i hr
      rw [if_neg Bool.false_ne_true, h] at hr
      cases hr

theorem Boundary.read?_eq_none {t : List Char} (h : Boundary t) : Between.read? t = none := by
  rw [read?_eq, (h.stops fun c => isNameChar_of_isBoundaryChar).takeWhile_eq]
  rfl

/-- Between words it makes no difference whether a word stands before the text. -/
theorem Boundary.expandBetween_eq {t : List Char} (h : Boundary t) (w : Bool) :
    expandBetween w t = expandBetween false t := by
  cases t with
  | nil => rw [expandBetween, expandBetween]
  | cons c t =>
    rw [expandBetween_cons (Or.inr h.read?_eq_none), expandBetween_cons (Or.inr h.read?_eq_none)]

theorem expandBetween_of_inert {u t : List Char} (hu : ∀ c ∈ u, isBlank c = false) (ht : Inert t)
    (w : Bool) : expandBetween w (u ++ t) = u ++ expandBetween false t := by
  induction u generalizing w with
  | nil => exact ht.boundary.expandBetween_eq w
  | cons c u ih =>
    have hr : Between.read? (c :: (u ++ t)) = none := read?_of_inert hu ht
    rw [List.cons_append, expandBetween_cons (Or.inr hr),
      ih fun d hd => hu d (List.mem_cons_of_mem c hd), List.cons_append]

theorem expandBetween_boundary {u : List Char} (hu : ∀ c ∈ u, isBoundaryChar c) (t : List Char) :
    expandBetween false (u ++ t) = u ++ expandBetween false t := by
  induction u with
  | nil => rfl
  | cons c u ih =>
    have hc := hu c List.mem_cons_self
    have hr : Between.read? (c :: (u ++ t)) = none := (boundary_cons hc (u ++ t)).read?_eq_none
    rw [List.cons_append, expandBetween_cons (Or.inr hr), isWordChar_of_isBoundaryChar hc,
      ih fun d hd => hu d (List.mem_cons_of_mem c hd), List.cons_append]

/-! ## Pieces -/

/-- In front of an inert text, `u` is written out as `v`. It does not itself complete a clause
behind a word. -/
structure Expands (u v : List Char) : Prop where
  tight : Tight u
  not_clause : ∀ t,
    ((dropKeyword? "BETWEEN".toList (u ++ t)).bind skipBlanks?).bind takeNumber? = none
  expand : ∀ t, Inert t → expandBetween false (u ++ t) = v ++ expandBetween false t

theorem Comparison.expands (c : Comparison) : Expands c.text c.text where
  tight := c.tight
  not_clause t := by
    rw [dropKeyword?_bind_of_not_isAlpha (by decide) c.isBlank_of_mem c.exists_not_isAlpha]
    rfl
  expand _ ht := expandBetween_of_inert c.isBlank_of_mem ht false

theorem takeNumber?_of_isAlpha {c : Char} (h : c.isAlpha) (t : List Char) :
    takeNumber? (c :: t) = none := by
  have hsign : c ≠ '-' := by
    rintro rfl
    exact absurd h (by decide)
  rw [takeNumber?, takeSign_cons hsign,
    List.takeWhile_cons_of_neg (by simp [isDecimalDigit_of_isAlpha h])]
  rfl

theorem takeNumber?_cased {word : List Char} (hword : word.all Char.isUpper) (hne : word ≠ [])
    (w : Cased word) (t : List Char) : takeNumber? (w.chars ++ t) = none := by
  have hw : w.chars ≠ [] := w.ne_nil hne
  obtain ⟨c, chars, hc⟩ := List.exists_cons_of_ne_nil hw
  have hcw : c ∈ w.chars := by rw [hc]; exact List.mem_cons_self
  rw [hc, List.cons_append]
  exact takeNumber?_of_isAlpha (w.isAlpha hword hcw) _

theorem conditionsText_read (c : Clause) :
    c.read.conditionsText = c.atLeast.text ++ spacedAnd.text ++ c.atMost.text := by
  have hand : spacedAnd.text = " AND ".toList := rfl
  simp only [hand, Between.conditionsText, Clause.read, Comparison.text, Clause.atLeast,
    Clause.atMost, valueRun, Operator.symbol, List.append_assoc]

theorem Clause.expands (c : Clause) :
    Expands c.text (c.atLeast.text ++ spacedAnd.text ++ c.atMost.text) where
  tight := by
    have hcode : Tight c.code.chars :=
      Tight.of_forall c.code.ne_nil fun x hx => isBlank_of_isCodeChar (c.code.all x hx)
    have h := hcode.append (c.between.text ++ c.low.text ++ c.and.text) c.high.tight
    rwa [← List.append_assoc, ← List.append_assoc] at h
  not_clause t := by
    have hcode : ∀ x ∈ c.code.chars, isBlank x = false :=
      fun x hx => isBlank_of_isCodeChar (c.code.all x hx)
    have hkey : Tight c.between.keyword.chars := c.between.keyword.tight (by decide) (by decide)
    have hshape : c.text ++ t =
        c.code.chars ++ (c.between.before.chars ++ (c.between.keyword.chars ++
          (c.between.after.chars ++ (c.low.text ++ (c.and.text ++ (c.high.text ++ t)))))) := by
      simp only [Clause.text, Spaced.text, List.append_assoc]
    have hupper : "BETWEEN".toList.all Char.isUpper := by decide
    rw [hshape]
    rcases dropKeyword?_bind_gap hupper hcode c.between.before _ with h | h
    · rw [h, Option.bind_none]
    · rw [h, c.between.before.skipBlanks? (hkey.stops _), Option.bind_some,
        takeNumber?_cased (by decide) (by decide)]
  expand t ht := by
    rw [expandBetween_of_read? (read?_clause c ht.boundary), ht.boundary.expandBetween_eq,
      conditionsText_read]

theorem Piece.expands (p : Piece) : Expands p.text (p.comparisons.text Comparison.text) := by
  cases p with
  | comparison c => exact c.expands
  | clause c => exact c.expands

/-! ## Joined pieces -/

theorem Expands.inert_gap {u v : List Char} (hu : Expands u v) (g : Run isBlank) (t : List Char) :
    Inert (g.chars ++ (u ++ t)) := by
  refine ⟨boundary_run g _, ?_⟩
  rw [skipWord?_bind, g.skipBlanks? (hu.tight.stops t), Option.bind_some]
  exact hu.not_clause t

section
variable {k : Connective} (hk : k.Plain) (hs : isBoundaryChar k.symbol)
include hk hs

theorem expandBetween_separator (s : k.Spelling) {u v : List Char} (hu : Expands u v)
    (t : List Char) :
    expandBetween false (s.text ++ (u ++ t)) = s.text ++ expandBetween false (u ++ t) := by
  cases s with
  | word w =>
    have hbefore : ∀ c ∈ w.before.chars, isBoundaryChar c :=
      fun c hc => isBoundaryChar_of_isBlank (w.before.all c hc)
    have hafter : ∀ c ∈ w.after.chars, isBoundaryChar c :=
      fun c hc => isBoundaryChar_of_isBlank (w.after.all c hc)
    have hkey : ∀ c ∈ w.keyword.chars, isBlank c = false :=
      Connective.Spelling.isBlank_core hk (.word w)
    show expandBetween false (w.before.chars ++ w.keyword.chars ++ w.after.chars ++ (u ++ t)) =
      w.before.chars ++ w.keyword.chars ++ w.after.chars ++ expandBetween false (u ++ t)
    simp only [List.append_assoc]
    rw [expandBetween_boundary hbefore, expandBetween_of_inert hkey (hu.inert_gap w.after t),
      expandBetween_boundary hafter]
  | symbol before after =>
    refine expandBetween_boundary (fun c hc => ?_) _
    simp only [Connective.Spelling.text, Connective.Spelling.before, Connective.Spelling.core,
      Connective.Spelling.after, List.mem_append, List.mem_singleton] at hc
    rcases hc with (hc | rfl) | hc
    · exact isBoundaryChar_of_isBlank (before.all c hc)
    · exact hs
    · exact isBoundaryChar_of_isBlank (after.all c hc)

/-- Items joined by separators are written out one by one. -/
theorem expands_joined (hb : "BETWEEN".toList.head? ≠ k.word.head?) {α : Type}
    {f g : α → List Char} (j : Joined k α) (hf : ∀ x ∈ j.items, Expands (f x) (g x)) :
    Expands (j.text f) (j.text g) := by
  induction j with
  | single x => exact hf x List.mem_cons_self
  | cons x s j ih =>
    have hx := hf x List.mem_cons_self
    have hj := ih fun y hy => hf y (List.mem_cons_of_mem x hy)
    refine ⟨hx.tight.append s.text hj.tight, fun t => ?_, fun t ht => ?_⟩
    · rw [Joined.text, List.append_assoc, List.append_assoc]
      exact hx.not_clause _
    · simp only [Joined.text, List.append_assoc]
      rw [hx.expand _ (inert_separator hk hs hb s _), expandBetween_separator hk hs s hj,
        hj.expand t ht]

end

theorem Group.expands (g : Group) : Expands g.text (g.comparisons.text Comparison.text) := by
  rw [Group.comparisons, Joined.text_bind]
  exact expands_joined conjunction_plain (by decide) (by decide) g fun p _ => p.expands

theorem Sentence.expands (s : Sentence) :
    Expands s.text (Joined.text (fun g : Group => g.comparisons.text Comparison.text) s) :=
  expands_joined disjunction_plain (by decide) (by decide) s fun g _ => Group.expands g

/-- Writing out the clauses of a sentence turns each of them into its two comparisons and leaves
everything else as it is. -/
theorem Sentence.expandBetween_text (s : Sentence) :
    expandBetween false s.text =
      Joined.text (fun g : Group => g.comparisons.text Comparison.text) s := by
  have h := s.expands.expand [] inert_nil
  rwa [List.append_nil, expandBetween, List.append_nil] at h

end SurveyTables.Equation
