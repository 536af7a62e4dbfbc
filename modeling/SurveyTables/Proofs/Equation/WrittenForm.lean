import Mathlib.Data.List.Forall2
import SurveyTables.Proofs.Equation.Meaning

/-!
# The written form of an expression

* `Expression.Same` : equal expressions, where the bounds of ranges are compared as numbers;
* `Operand.WellFormed`, `Condition.WellFormed`, `Expression.WellFormed` : what can be told from its
  written form;
* `Operand.WellFormed.read_text`, `Condition.WellFormed.read_text` : a value and a condition are
  read back;
* `exists_sentence` : the written form of an expression is a sentence whose pieces are the written
  forms of its conditions;
* `Expression.parse_text` : an expression is read back, and nothing is reported.
-/

namespace SurveyTables

open Text Equation

/-! ## Equal expressions -/

/-- The same value. Bounds are compared as numbers, so that zero is the same with either sign. -/
def Operand.Same : Operand → Operand → Prop
  | .range a b, .range c d => a == c ∧ b == d
  | v, w => v = w

structure Condition.Same (c d : Condition) : Prop where
  code : c.code = d.code
  operator : c.operator = d.operator
  operand : c.operand.Same d.operand

inductive Expression.Same : Expression → Expression → Prop
  | all : Same .all .all
  | condition {c d : Condition} (h : c.Same d) : Same (.condition c) (.condition d)
  | unparsed (text : String) : Same (.unparsed text) (.unparsed text)
  | and {es fs : List Expression} (h : List.Forall₂ Same es fs) : Same (.and es) (.and fs)
  | or {es fs : List Expression} (h : List.Forall₂ Same es fs) : Same (.or es) (.or fs)

/-! ## Well-formed expressions -/

/-- The characters of an item: no blanks, no symbols of connectives and no commas. -/
def isItemChar (c : Char) : Bool := isValueChar c && c != ','

/-- The number is shown as a text that is read as an equal number, which not a number never is. -/
def ReadsBack (x : Float) : Prop := ∃ y, numberOfText? (numberText x) = some y ∧ y == x

/-- A value whose kind and parts can be told from its written form behind the operator. -/
inductive Operand.WellFormed : Operator → Operand → Prop
  -- from zero on, so that the first dash is the one between the bounds
  | range {op : Operator} {min max : Float} (nonneg : 0 ≤ min) (min_reads : ReadsBack min)
      (max_reads : ReadsBack max) : WellFormed op (.range min max)
  | list {op : Operator} {items : List String} (equality : op = .equal ∨ op = .notEqual)
      (length : 2 ≤ items.length) (chars : ∀ s ∈ items, ∀ c ∈ s.toList, isItemChar c) :
      WellFormed op (.list items)
  -- neither a range nor what makes `>` or `<` the first character of another operator
  | scalar {op : Operator} {s : String} (ne_empty : s ≠ "") (chars : ∀ c ∈ s.toList, isItemChar c)
      (not_range : ∀ low high, '-' ∉ low → low ≠ [] → s.toList = low ++ '-' :: high →
        numberOfText? (String.ofList low) = none ∨ numberOfText? (String.ofList high) = none)
      (apart : op = .greater ∨ op = .less → s.toList.head? ≠ some '=') : WellFormed op (.scalar s)

structure Condition.WellFormed (c : Condition) : Prop where
  code_ne_empty : c.code ≠ ""
  code_chars : ∀ x ∈ c.code.toList, Condition.isCodeChar x
  operand : c.operand.WellFormed c.operator

/-- A condition, or a conjunction of two or more. -/
def Expression.IsTerm : Expression → Prop
  | .condition c => c.WellFormed
  | .and parts => 2 ≤ parts.length ∧ ∀ e ∈ parts, ∃ c : Condition, c.WellFormed ∧ e = .condition c
  | _ => False

/-- Every record, a term, or a disjunction of two or more terms. -/
def Expression.WellFormed : Expression → Prop
  | .all => True
  | .or parts => 2 ≤ parts.length ∧ ∀ e ∈ parts, e.IsTerm
  | e => e.IsTerm

/-! ## Characters of a value -/

theorem isValueChar_of_isItemChar {c : Char} (h : isItemChar c) : isValueChar c :=
  (Bool.and_eq_true_iff.1 h).1

theorem ne_comma_of_isItemChar {c : Char} (h : isItemChar c) : c ≠ ',' := by
  rintro rfl
  cases (Bool.and_eq_true_iff.1 h).2

theorem isValueChar_of_mem_numberText {x : Float} {c : Char} (h : c ∈ (numberText x).toList) :
    isValueChar c := by
  rcases mem_numberText h with h | rfl | ⟨rfl, -⟩
  · exact isValueChar_of_isCodeChar (Bool.or_eq_true_iff.2 (Or.inl h))
  · decide
  · decide

theorem mem_intercalate {sep : Char} {l : List (List Char)} {c : Char}
    (h : c ∈ [sep].intercalate l) : c = sep ∨ ∃ u ∈ l, c ∈ u := by
  induction l with
  | nil => cases h
  | cons u l ih =>
    cases l with
    | nil =>
      rw [List.intercalate_singleton] at h
      exact Or.inr ⟨u, List.mem_cons_self, h⟩
    | cons v l =>
      rw [List.intercalate_cons_cons, List.append_assoc] at h
      rcases List.mem_append.1 h with h | h
      · exact Or.inr ⟨u, List.mem_cons_self, h⟩
      · rcases List.mem_cons.1 h with h | h
        · exact Or.inl h
        · refine (ih h).imp_right ?_
          rintro ⟨w, hw, hc⟩
          exact ⟨w, List.mem_cons_of_mem u hw, hc⟩

namespace Operand

theorem toList_text_list (items : List String) :
    (Operand.list items).text.toList = [','].intercalate (items.map String.toList) :=
  String.toList_intercalate

theorem toList_text_range (min max : Float) :
    (Operand.range min max).text.toList =
      (numberText min).toList ++ '-' :: (numberText max).toList := by
  rw [text, String.toList_append, String.toList_append, List.append_assoc]
  rfl

theorem comma_mem_text {items : List String} (h : 2 ≤ items.length) :
    ',' ∈ (Operand.list items).text.toList := by
  rw [toList_text_list]
  match items, h with
  | s :: t :: items, _ =>
    rw [List.map_cons, List.map_cons, List.intercalate_cons_cons, List.append_assoc]
    exact List.mem_append_right _ List.mem_cons_self

variable {op : Operator} {v : Operand}

theorem WellFormed.text_ne_nil (h : v.WellFormed op) : v.text.toList ≠ [] := by
  cases h with
  | range nonneg min_reads max_reads =>
    rw [toList_text_range]
    exact List.append_ne_nil_of_right_ne_nil _ (List.cons_ne_nil _ _)
  | list equality length chars => exact List.ne_nil_of_mem (comma_mem_text length)
  | scalar ne_empty chars not_range apart =>
    exact fun hs => ne_empty (String.toList_eq_nil_iff.1 hs)

theorem WellFormed.isValueChar_of_mem (h : v.WellFormed op) :
    ∀ c ∈ v.text.toList, isValueChar c := by
  intro c hc
  cases h with
  | range nonneg min_reads max_reads =>
    rw [toList_text_range] at hc
    rcases List.mem_append.1 hc with hc | hc
    · exact isValueChar_of_mem_numberText hc
    · rcases List.mem_cons.1 hc with rfl | hc
      · decide
      · exact isValueChar_of_mem_numberText hc
  | list equality length chars =>
    rw [toList_text_list] at hc
    rcases mem_intercalate hc with rfl | ⟨u, hu, hc⟩
    · decide
    · obtain ⟨s, hs, rfl⟩ := List.mem_map.1 hu
      exact isValueChar_of_isItemChar (chars s hs c hc)
  | scalar ne_empty chars not_range apart => exact isValueChar_of_isItemChar (chars c hc)

theorem WellFormed.head?_ne (h : v.WellFormed op) (hop : op = .greater ∨ op = .less) :
    v.text.toList.head? ≠ some '=' := by
  cases h with
  | @range min max nonneg min_reads max_reads =>
    intro hhead
    have hequals : ∀ x : Float, '=' ∉ (numberText x).toList := by
      intro x hx
      rcases mem_numberText hx with hc | hc | ⟨hc, -⟩ <;> cases hc
    have hmem := List.mem_of_mem_head? hhead
    rw [toList_text_range] at hmem
    rcases List.mem_append.1 hmem with hmem | hmem
    · exact hequals min hmem
    · rcases List.mem_cons.1 hmem with hmem | hmem
      · cases hmem
      · exact hequals max hmem
  | list equality length chars =>
    exact absurd equality (by rcases hop with rfl | rfl <;> decide)
  | scalar ne_empty chars not_range apart => exact apart hop

/-- A well-formed value is read back from its written form. -/
theorem WellFormed.read_text (h : v.WellFormed op) :
    ∃ w, Operand.read op v.text.toList = .ok w ∧ w.Same v := by
  cases h with
  | @range min max nonneg min_reads max_reads =>
    obtain ⟨a, ha, hmin⟩ := min_reads
    obtain ⟨b, hb, hmax⟩ := max_reads
    have hdash : '-' ∉ (numberText min).toList := by
      intro hmem
      rcases mem_numberText hmem with hc | hc | ⟨-, hneg⟩
      · cases hc
      · cases hc
      · exact hneg nonneg
    have hrange : readRange? (Operand.range min max).text.toList = some (.range a b) := by
      rw [← String.ofList_toList (s := numberText min)] at ha
      rw [← String.ofList_toList (s := numberText max)] at hb
      rw [toList_text_range]
      exact readRange?_append hdash ha hb
    exact ⟨.range a b, by rw [read, hrange], hmin, hmax⟩
  | @list items equality length chars =>
    have hcomma := comma_mem_text length
    have hitems : (splitOn ',' (Operand.list items).text.toList).map
        (fun item => String.ofList (trim item)) = items := by
      have hne : items.map String.toList ≠ [] := by
        intro hnil
        rw [List.map_eq_nil_iff.1 hnil] at length
        cases length
      have hsep : ∀ u ∈ items.map String.toList, ',' ∉ u := by
        intro u hu hc
        obtain ⟨s, hs, rfl⟩ := List.mem_map.1 hu
        exact ne_comma_of_isItemChar (chars s hs ',' hc) rfl
      rw [toList_text_list, splitOn_intercalate hne hsep, List.map_map]
      refine (List.map_congr_left fun s hs => ?_).trans (List.map_id items)
      have hblank : ∀ c ∈ s.toList, isBlank c = false := fun c hc =>
        isBlank_of_isValueChar (isValueChar_of_isItemChar (chars s hs c hc))
      rw [Function.comp_apply, trim_of_forall hblank, String.ofList_toList, id]
    refine ⟨.list items, ?_, rfl⟩
    rw [read, readRange?_of_comma hcomma]
    simp only
    rw [if_pos (List.contains_iff_mem.2 hcomma),
      if_pos (Operator.isEquality_iff.2 equality), hitems]
  | @scalar s ne_empty chars not_range apart =>
    have hcomma : s.toList.contains ',' = false := by
      rw [Bool.eq_false_iff]
      exact fun hc => ne_comma_of_isItemChar (chars ',' (List.contains_iff_mem.1 hc)) rfl
    refine ⟨.scalar s, ?_, rfl⟩
    rw [text, read, readRange?_eq_none not_range, hcomma, String.ofList_toList]
    rfl

end Operand

/-! ## Reading a condition -/

namespace Condition
variable {c : Condition}

/-- The condition as a comparison of the grammar. -/
def WellFormed.comparison (h : c.WellFormed) : Comparison where
  code := ⟨c.code.toList, fun hnil => h.code_ne_empty (String.toList_eq_nil_iff.1 hnil),
    h.code_chars⟩
  operator := c.operator
  value := ⟨c.operand.text.toList, h.operand.text_ne_nil, h.operand.isValueChar_of_mem⟩

theorem WellFormed.text_comparison (h : c.WellFormed) : h.comparison.text = c.text.toList := by
  rw [text, String.toList_append, String.toList_append]
  rfl

/-- A well-formed condition is read back from its written form. -/
theorem WellFormed.read_text (h : c.WellFormed) :
    ∃ d, Condition.read c.text.toList = .ok d ∧ d.Same c := by
  obtain ⟨w, hread, hsame⟩ := h.operand.read_text
  have hapart : h.comparison.Apart := h.operand.head?_ne
  refine ⟨⟨c.code, c.operator, w⟩, ?_, rfl, rfl, hsame⟩
  rw [← h.text_comparison, Comparison.read_text hapart]
  show (Operand.read c.operator c.operand.text.toList).map _ = _
  rw [hread, Except.map]
  show Except.ok (Condition.mk (String.ofList c.code.toList) c.operator w) = _
  rw [String.ofList_toList]

end Condition

/-! ## Expressions as rows of conditions -/

namespace Equation

/-- The disjunction of conjunctions of conditions. -/
def ofConditions (css : List (List Condition)) : Expression :=
  disjoin (css.map fun cs => conjoin (cs.map Expression.condition))

theorem conjoin_of_two_le {es : List Expression} (h : 2 ≤ es.length) : conjoin es = .and es := by
  match es, h with
  | _ :: _ :: _, _ => rfl

theorem disjoin_of_two_le {es : List Expression} (h : 2 ≤ es.length) : disjoin es = .or es := by
  match es, h with
  | _ :: _ :: _, _ => rfl

theorem exists_eq_map {α β : Type} {P : α → Prop} {f : α → β} {l : List β}
    (h : ∀ b ∈ l, ∃ a, P a ∧ b = f a) : ∃ m : List α, (∀ a ∈ m, P a) ∧ l = m.map f := by
  induction l with
  | nil => exact ⟨[], nofun, rfl⟩
  | cons b l ih =>
    obtain ⟨a, ha, rfl⟩ := h b List.mem_cons_self
    obtain ⟨m, hm, rfl⟩ := ih fun c hc => h c (List.mem_cons_of_mem _ hc)
    exact ⟨a :: m, List.forall_mem_cons.2 ⟨ha, hm⟩, rfl⟩

/-- One or more well-formed conditions. -/
def WellFormedRow (cs : List Condition) : Prop := cs ≠ [] ∧ ∀ c ∈ cs, c.WellFormed

theorem exists_row {e : Expression} (h : e.IsTerm) :
    ∃ cs, WellFormedRow cs ∧ e = conjoin (cs.map Expression.condition) := by
  match e, h with
  | .condition c, h => exact ⟨[c], ⟨List.cons_ne_nil c [], List.forall_mem_singleton.2 h⟩, rfl⟩
  | .and parts, ⟨hlength, hparts⟩ =>
    obtain ⟨cs, hcs, rfl⟩ := exists_eq_map hparts
    refine ⟨cs, ⟨?_, hcs⟩, (conjoin_of_two_le hlength).symm⟩
    rintro rfl
    cases hlength

theorem exists_rows {e : Expression} (h : e.WellFormed) :
    e = .all ∨ ∃ css, css ≠ [] ∧ (∀ cs ∈ css, WellFormedRow cs) ∧ e = ofConditions css := by
  have hterm : ∀ {e : Expression}, e.IsTerm →
      ∃ css, css ≠ [] ∧ (∀ cs ∈ css, WellFormedRow cs) ∧ e = ofConditions css := by
    intro e he
    obtain ⟨cs, hcs, rfl⟩ := exists_row he
    exact ⟨[cs], List.cons_ne_nil cs [], List.forall_mem_singleton.2 hcs, rfl⟩
  match e, h with
  | .all, _ => exact Or.inl rfl
  | .or parts, ⟨hlength, hparts⟩ =>
    obtain ⟨css, hcss, rfl⟩ := exists_eq_map fun e he => exists_row (hparts e he)
    refine Or.inr ⟨css, ?_, hcss, (disjoin_of_two_le hlength).symm⟩
    rintro rfl
    cases hlength
  | .condition c, h => exact Or.inr (hterm (e := .condition c) h)
  | .and parts, h => exact Or.inr (hterm (e := .and parts) h)

/-! ## The written form as a sentence -/

theorem text_conjoin (es : List Expression) :
    (conjoin es).text = " AND ".intercalate (es.map Expression.text) := by
  unfold conjoin
  split
  · rw [List.map_singleton, String.intercalate_singleton]
  · rw [Expression.text, Expression.texts_eq]

theorem text_disjoin (es : List Expression) :
    (disjoin es).text = " OR ".intercalate (es.map Expression.text) := by
  unfold disjoin
  split
  · rw [List.map_singleton, String.intercalate_singleton]
  · rw [Expression.text, Expression.texts_eq]

/-- The characters of the conditions of a row with `AND` between them. -/
def rowText (cs : List Condition) : List Char :=
  " AND ".toList.intercalate (cs.map fun c => c.text.toList)

theorem toList_text_ofConditions (css : List (List Condition)) :
    (ofConditions css).text.toList = " OR ".toList.intercalate (css.map rowText) := by
  have hrow : ∀ cs : List Condition,
      (conjoin (cs.map Expression.condition)).text.toList = rowText cs := by
    intro cs
    rw [text_conjoin, String.toList_intercalate, List.map_map, List.map_map]
    rfl
  rw [ofConditions, text_disjoin, String.toList_intercalate, List.map_map, List.map_map]
  exact congrArg _ (List.map_congr_left fun cs _ => hrow cs)

/-- The separator as it is written between the terms of an expression. -/
def spacedOr : disjunction.Spelling := .word ⟨space, ⟨"OR".toList, by decide⟩, space⟩

theorem exists_joined {k : Connective} (s : k.Spelling) {α β γ : Type} {f : α → List Char}
    {g : α → γ} {F : β → List Char} {G : β → γ} {l : List β} (hne : l ≠ [])
    (h : ∀ b ∈ l, ∃ a, f a = F b ∧ g a = G b) :
    ∃ j : Joined k α, j.text f = s.text.intercalate (l.map F) ∧ j.items.map g = l.map G := by
  induction l with
  | nil => exact absurd rfl hne
  | cons b l ih =>
    obtain ⟨a, hf, hg⟩ := h b List.mem_cons_self
    cases l with
    | nil =>
      refine ⟨.single a, ?_, ?_⟩
      · rw [List.map_singleton, List.intercalate_singleton]
        exact hf
      · exact congrArg (· :: []) hg
    | cons c l =>
      obtain ⟨j, htext, hitems⟩ := ih (List.cons_ne_nil c l) fun d hd =>
        h d (List.mem_cons_of_mem b hd)
      refine ⟨.cons a s j, ?_, ?_⟩
      · rw [Joined.text, htext, hf]
        exact List.intercalate_cons_cons.symm
      · rw [Joined.items, List.map_cons, hitems, hg]
        rfl

theorem exists_group {cs : List Condition} (h : WellFormedRow cs) :
    ∃ g : Group, g.text = rowText cs ∧
      g.comparisons.items.map Comparison.text = cs.map fun c => c.text.toList := by
  obtain ⟨hne, hcs⟩ := h
  have hpiece : ∀ c ∈ cs, ∃ p : Piece, p.text = c.text.toList ∧
      p.comparisons.items.map Comparison.text = [c.text.toList] := by
    intro c hc
    have htext := (hcs c hc).text_comparison
    exact ⟨.comparison (hcs c hc).comparison, htext, congrArg (· :: []) htext⟩
  obtain ⟨g, htext, hitems⟩ := exists_joined spacedAnd hne hpiece
  refine ⟨g, htext, ?_⟩
  rw [Group.comparisons, Joined.items_bind, List.map_flatMap, List.flatMap_def, hitems,
    ← List.flatMap_def, ← List.map_eq_flatMap]

/-- The written form of rows of well-formed conditions is a sentence, and its pieces are the written
forms of the conditions. -/
theorem exists_sentence {css : List (List Condition)} (hne : css ≠ [])
    (h : ∀ cs ∈ css, WellFormedRow cs) :
    ∃ s : Sentence, s.text = (ofConditions css).text.toList ∧
      (groups s.text).map (·.map trim) = css.map fun cs => cs.map fun c => c.text.toList := by
  obtain ⟨s, htext, hitems⟩ := exists_joined spacedOr hne fun cs hcs => exists_group (h cs hcs)
  refine ⟨s, htext.trans (toList_text_ofConditions css).symm, ?_⟩
  exact (Sentence.map_trim_groups s).trans hitems

/-! ## Reading an expression -/

theorem same_conjoin {es fs : List Expression} (h : List.Forall₂ Expression.Same es fs) :
    (conjoin es).Same (conjoin fs) := by
  cases h with
  | nil => exact .and .nil
  | cons he hes =>
    cases hes with
    | nil => exact he
    | cons hf hfs => exact .and (.cons he (.cons hf hfs))

theorem same_disjoin {es fs : List Expression} (h : List.Forall₂ Expression.Same es fs) :
    (disjoin es).Same (disjoin fs) := by
  cases h with
  | nil => exact .or .nil
  | cons he hes =>
    cases hes with
    | nil => exact he
    | cons hf hfs => exact .or (.cons he (.cons hf hfs))

theorem same_ofPiece_text {c : Condition} (h : c.WellFormed) :
    (ofPiece c.text.toList).Same (.condition c) := by
  obtain ⟨d, hread, hsame⟩ := h.read_text
  rw [ofPiece, hread]
  exact .condition hsame

theorem same_ofGroups {css : List (List Condition)} (h : ∀ cs ∈ css, WellFormedRow cs) :
    (ofGroups (css.map fun cs => cs.map fun c => c.text.toList)).Same (ofConditions css) := by
  rw [ofGroups, ofConditions, List.map_map]
  refine same_disjoin ?_
  rw [List.forall₂_map_left_iff, List.forall₂_map_right_iff, List.forall₂_same]
  intro cs hcs
  rw [Function.comp_apply, List.map_map]
  refine same_conjoin ?_
  rw [List.forall₂_map_left_iff, List.forall₂_map_right_iff, List.forall₂_same]
  exact fun c hc => same_ofPiece_text ((h cs hcs).2 c hc)

theorem warning?_trim (p : List Char) : warning? (trim p) = warning? p := by
  rw [warning?, warning?, read_trim, trim_trim]

theorem filterMap_warning? (gs : List (List (List Char))) :
    gs.flatten.filterMap warning? = (gs.map (·.map trim)).flatten.filterMap warning? := by
  rw [← List.map_flatten, List.filterMap_map]
  congr 1
  funext p
  exact (warning?_trim p).symm

end Equation

/-- A well-formed expression is read back from its written form, and nothing is reported. -/
theorem Expression.parse_text {e : Expression} (h : e.WellFormed) :
    (parse e.text).Same e ∧ warnings e.text = [] := by
  obtain rfl | ⟨css, hne, hcss, rfl⟩ := exists_rows h
  · exact ⟨.all, rfl⟩
  · obtain ⟨s, htext, hgroups⟩ := exists_sentence hne hcss
    have hall : isMatchAll (ofConditions css).text.toList = false := by
      rw [← htext, s.isMatchAll_text]
    rw [htext] at hgroups
    constructor
    · rw [parse, if_neg (ne_true_of_eq_false hall), ← ofGroups_map_trim, hgroups]
      exact same_ofGroups hcss
    · rw [warnings, if_neg (ne_true_of_eq_false hall), filterMap_warning?, hgroups,
        List.filterMap_eq_nil_iff]
      intro p hp
      obtain ⟨l, hl, hp⟩ := List.mem_flatten.1 hp
      obtain ⟨cs, hcs, rfl⟩ := List.mem_map.1 hl
      obtain ⟨c, hc, rfl⟩ := List.mem_map.1 hp
      obtain ⟨d, hread, -⟩ := ((hcss cs hcs).2 c hc).read_text
      rw [warning?, hread]

/-- A range with a negative upper bound under a comparison, a list with an empty item, a value that
begins with a dash, and a variable that is called like a keyword. -/
theorem Expression.parse_text_of_dashes :
    let e : Expression := .or [
      .and [.condition ⟨"Q1", .greater, .range 5 (-3)⟩,
        .condition ⟨"S_7", .notEqual, .list ["", "1-2"]⟩],
      .condition ⟨"BETWEEN", .less, .scalar "-1-2"⟩]
    e.text = "Q1>5--3 AND S_7!=,1-2 OR BETWEEN<-1-2" ∧
      (parse e.text).Same e ∧ warnings e.text = [] := by
  intro e
  have hrange : Operand.WellFormed .greater (.range 5 (-3)) :=
    .range (by decide +kernel) ⟨5, by decide +kernel, by decide +kernel⟩
      ⟨-3, by decide +kernel, by decide +kernel⟩
  have hlist : Operand.WellFormed .notEqual (.list ["", "1-2"]) :=
    .list (Or.inr rfl) (by decide) (List.forall_mem_cons.2
      ⟨List.all_eq_true.1 (by decide), List.forall_mem_singleton.2 (List.all_eq_true.1 (by decide))⟩)
  have hscalar : Operand.WellFormed .less (.scalar "-1-2") := by
    refine .scalar (by decide) (List.all_eq_true.1 (by decide))
      (fun low high hdash hne htext => ?_) fun _ => by decide
    cases low with
    | nil => exact absurd rfl hne
    | cons c low => exact absurd ((List.cons.inj htext).1 ▸ List.mem_cons_self) hdash
  have hand : Expression.IsTerm (.and [.condition ⟨"Q1", .greater, .range 5 (-3)⟩,
      .condition ⟨"S_7", .notEqual, .list ["", "1-2"]⟩]) := by
    refine ⟨by decide, List.forall_mem_cons.2 ⟨?_, List.forall_mem_singleton.2 ?_⟩⟩
    · exact ⟨_, ⟨by decide, List.all_eq_true.1 (by decide), hrange⟩, rfl⟩
    · exact ⟨_, ⟨by decide, List.all_eq_true.1 (by decide), hlist⟩, rfl⟩
  have hcondition : Expression.IsTerm (.condition ⟨"BETWEEN", .less, .scalar "-1-2"⟩) :=
    ⟨by decide, List.all_eq_true.1 (by decide), hscalar⟩
  have he : e.WellFormed :=
    ⟨by decide, List.forall_mem_cons.2 ⟨hand, List.forall_mem_singleton.2 hcondition⟩⟩
  exact ⟨by decide +kernel, Expression.parse_text he⟩

end SurveyTables
