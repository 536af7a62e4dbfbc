import SurveyTables.Proofs.Equation.Expansion
import SurveyTables.Proofs.Equation.Reading

/-!
# What a well-formed equation means

* `read_bound`, `holds_bound` : the two conditions that a clause is written out as compare its
  variable with its bounds; `Clause.holds_eq` : together they are the clause;
* `holds_ofGroups` : the verdict on groups of pieces; `ofGroups_map_trim` : blanks around a piece do
  not matter;
* `Sentence.map_trim_groups` : the pieces of a sentence are its comparisons;
* `holds_text_iff` : a record satisfies the text of a sentence if and only if it satisfies every
  piece of some group.
-/

namespace SurveyTables.Equation

open Text

/-! ## The conditions of a clause -/

theorem readRange?_numeral (n : Numeral) : Operand.readRange? n.text = none := by
  unfold Operand.readRange?
  split
  · rfl
  · rename_i hhead
    have hdash : '-' ∉ n.text := by
      obtain ⟨negative, whole, fraction⟩ := n
      cases negative with
      | true => exact absurd rfl hhead
      | false =>
        intro h
        rcases List.mem_append.1 h with h | h
        · exact absurd (whole.all _ h) (by decide)
        · cases fraction with
          | none => cases h
          | some f =>
            rcases List.mem_cons.1 h with h | h
            · cases h
            · exact absurd (f.all _ h) (by decide)
    rw [splitOnce?_of_not_mem hdash, Option.bind_none]

theorem read_numeral (op : Operator) (n : Numeral) :
    Operand.read op n.text = .ok (.scalar (String.ofList n.text)) := by
  have hcomma : n.text.contains ',' = false := by
    rw [Bool.eq_false_iff]
    intro h
    rcases Numeral.mem_text (List.contains_iff_mem.1 h) with h | h | h <;> revert h <;> decide
  rw [Operand.read, readRange?_numeral, hcomma]
  rfl

section
variable {op : Operator} (hop : op = .greaterEqual ∨ op = .lessEqual)
include hop

/-- A condition that bounds a variable by a numeral from below or from above is read as it is
meant. -/
theorem read_bound (code : Run Condition.isCodeChar) (n : Numeral) :
    Condition.read (Comparison.text ⟨code, op, valueRun n⟩) =
      .ok ⟨String.ofList code.chars, op, .scalar (String.ofList n.text)⟩ := by
  have hapart : Comparison.Apart ⟨code, op, valueRun n⟩ := by
    rintro (rfl | rfl)
    · rcases hop with h | h <;> cases h
    · rcases hop with h | h <;> cases h
  rw [Comparison.read_text hapart]
  show (Operand.read op n.text).map _ = _
  rw [read_numeral]
  rfl

theorem compare_of_isNaN {y : Float} (h : y.isNaN) (x : Float) : op.compare x y = false := by
  rcases hop with rfl | rfl
  · exact decide_eq_false (not_le_of_isNaN_left h x)
  · exact decide_eq_false (not_le_of_isNaN_right h x)

theorem scalarHolds_bound (n : Numeral) (v : Value) :
    Condition.scalarHolds op (String.ofList n.text) v =
      v.number?.any fun x => op.compare x n.value := by
  have hequality : ∀ b, op.ofEquality b = false := by
    intro b
    rcases hop with rfl | rfl <;> rfl
  rw [Condition.scalarHolds, n.numberOfText?_text]
  cases v.number? with
  | none => exact hequality _
  | some x =>
    by_cases hn : n.value.isNaN
    · rw [if_pos hn, Option.any_some, compare_of_isNaN hop hn]
      exact hequality _
    · rw [if_neg hn]
      rfl

theorem holds_bound (code : Run Condition.isCodeChar) (n : Numeral) (r : Record) :
    Comparison.holds r ⟨code, op, valueRun n⟩ =
      (r.response? (String.ofList code.chars)).any fun v =>
        v.number?.any fun x => op.compare x n.value := by
  rw [Comparison.holds, read_bound hop]
  show (r.response? _).any (Condition.scalarHolds op _) = _
  rw [funext (scalarHolds_bound hop n)]

end

/-- A clause is the conjunction of the two comparisons that it is written out as. -/
theorem Clause.holds_eq (c : Clause) (r : Record) :
    c.holds r = (c.atLeast.holds r && c.atMost.holds r) := by
  rw [atLeast, atMost, holds_bound (Or.inl rfl), holds_bound (Or.inr rfl), Clause.holds]
  cases r.response? (String.ofList c.code.chars) with
  | none => rfl
  | some v =>
    rw [Option.any_some, Option.any_some, Option.any_some]
    cases v.number? with
    | none => rfl
    | some x => rfl

theorem Piece.holds_eq (p : Piece) (r : Record) :
    p.holds r = p.comparisons.items.all (Comparison.holds r) := by
  cases p with
  | comparison c => simp [Piece.holds, Piece.comparisons, Joined.items]
  | clause c => simp [Piece.holds, Piece.comparisons, Joined.items, c.holds_eq]

/-! ## The verdict on groups of pieces -/

theorem holds_conjoin (es : List Expression) (r : Record) :
    (conjoin es).holds r = es.all (Expression.holds r) := by
  unfold conjoin
  split
  · rw [List.all_cons, List.all_nil, Bool.and_true]
  · rw [Expression.holds, Expression.allHold_eq]

theorem holds_disjoin (es : List Expression) (r : Record) :
    (disjoin es).holds r = es.any (Expression.holds r) := by
  unfold disjoin
  split
  · rw [List.any_cons, List.any_nil, Bool.or_false]
  · rw [Expression.holds, Expression.anyHold_eq]

theorem holds_ofGroups (gs : List (List (List Char))) (r : Record) :
    (ofGroups gs).holds r = gs.any fun g => g.all fun p => (ofPiece p).holds r := by
  rw [ofGroups, holds_disjoin, List.any_map]
  congr 1
  funext g
  rw [Function.comp_apply, holds_conjoin, List.all_map]
  rfl

/-- Blanks around a text do not matter. -/
theorem read_trim (s : List Char) : Condition.read (trim s) = Condition.read s := by
  rw [Condition.read, Condition.read, trim_trim]

theorem ofPiece_trim (p : List Char) : ofPiece (trim p) = ofPiece p := by
  rw [ofPiece, ofPiece, read_trim, trim_trim]

theorem ofGroups_map_trim (gs : List (List (List Char))) :
    ofGroups (gs.map (·.map trim)) = ofGroups gs := by
  rw [ofGroups, ofGroups, List.map_map]
  refine congrArg disjoin (List.map_congr_left fun g _ => ?_)
  rw [Function.comp_apply, List.map_map]
  exact congrArg conjoin (List.map_congr_left fun p _ => ofPiece_trim p)

theorem Comparison.ofPiece_text_holds (c : Comparison) (r : Record) :
    (ofPiece c.text).holds r = c.holds r := by
  rw [ofPiece, holds]
  cases Condition.read c.text with
  | ok k => rfl
  | error e => rfl

/-! ## Cutting a sentence -/

/-- Two functions map two lists to the same list if they agree where two other functions do, and
these map the lists to the same list. -/
theorem map_eq_map_of {α β γ δ : Type} {F : α → γ} {G : β → γ} {P : α → δ} {Q : β → δ}
    (hPQ : ∀ a b, F a = G b → P a = Q b) {l : List α} {m : List β} (h : l.map F = m.map G) :
    l.map P = m.map Q := by
  induction l generalizing m with
  | nil =>
    cases m with
    | nil => rfl
    | cons b m => cases h
  | cons a l ih =>
    cases m with
    | nil => cases h
    | cons b m =>
      obtain ⟨hab, hlm⟩ := List.cons.inj h
      rw [List.map_cons, List.map_cons, hPQ a b hab, ih hlm]

theorem Comparison.passes {k : Connective} (hk : k.Plain) (hs : isBoundaryChar k.symbol)
    (c : Comparison) : k.Passes c.text := by
  refine Connective.passes_of_forall hk (fun x hx => ⟨c.isBlank_of_mem x hx, ?_⟩)
    c.exists_not_isAlpha
  exact ne_symbol_of_isValueChar hs (isValueChar_of_mem hx)

/-- Cut at conjunctions, the written-out group gives its comparisons. -/
theorem Group.map_trim_split (g : Group) {p : List Char}
    (hp : trim p = g.comparisons.text Comparison.text) :
    (conjunction.split p).map trim = g.comparisons.items.map Comparison.text := by
  obtain ⟨pre, post, hpad⟩ := eq_padded_trim p
  have hsplit := Joined.map_trim_split conjunction_plain (f := Comparison.text) g.comparisons
    (fun c _ => c.passes conjunction_plain (by decide)) pre post
  rwa [← hp, ← hpad] at hsplit

/-- The pieces of a sentence are its comparisons, group by group. -/
theorem Sentence.map_trim_groups (s : Sentence) :
    (groups s.text).map (·.map trim) =
      s.items.map fun g => g.comparisons.items.map Comparison.text := by
  have htrim : trim s.text = s.text := s.expands.tight.trim_eq
  have hsplit := Joined.map_trim_split disjunction_plain
    (f := fun g : Group => g.comparisons.text Comparison.text) s
    (fun g _ => Joined.passes disjunction_plain conjunction_plain disjunction_apart_conjunction _
      fun c _ => c.passes disjunction_plain (by decide)) ⟨[], by simp⟩ ⟨[], by simp⟩
  rw [List.nil_append, List.append_nil, ← s.expandBetween_text] at hsplit
  rw [groups, htrim, List.map_map]
  exact map_eq_map_of (fun p g hpg => g.map_trim_split hpg) hsplit

theorem Group.holds_comparisons (g : Group) (r : Record) :
    ((g.comparisons.items.map Comparison.text).all fun p => (ofPiece p).holds r) = g.holds r := by
  rw [List.all_map, Group.comparisons, Joined.items_bind, List.all_flatMap, Group.holds]
  congr 1
  funext p
  rw [p.holds_eq]
  congr 1
  funext c
  exact c.ofPiece_text_holds r

theorem Sentence.holds_groups (s : Sentence) (r : Record) :
    (ofGroups (groups s.text)).holds r = s.items.any (Group.holds r) := by
  rw [← ofGroups_map_trim, s.map_trim_groups, holds_ofGroups, List.any_map]
  congr 1
  funext g
  exact g.holds_comparisons r

/-! ## The whole equation -/

theorem Piece.exists_not_isAlpha (p : Piece) : ∃ x ∈ p.text, x.isAlpha = false := by
  cases p with
  | comparison c => exact c.exists_not_isAlpha
  | clause c =>
    obtain ⟨x, hx⟩ := List.exists_mem_of_ne_nil _ c.between.before.ne_nil
    refine ⟨x, ?_, isAlpha_of_isBlank (c.between.before.all x hx)⟩
    simp [Piece.text, Clause.text, Spaced.text, hx]

theorem exists_not_isAlpha_joined {k : Connective} {α : Type} {f : α → List Char}
    (hf : ∀ x, ∃ c ∈ f x, c.isAlpha = false) (j : Joined k α) :
    ∃ c ∈ j.text f, c.isAlpha = false := by
  cases j with
  | single x => exact hf x
  | cons x s j =>
    obtain ⟨c, hc, hca⟩ := hf x
    exact ⟨c, List.mem_append_left _ (List.mem_append_left _ hc), hca⟩

/-- A text with a character that is no letter is not `TOTAL`. -/
theorem isMatchAll_of_tight {s : List Char} (h : Tight s) (hx : ∃ c ∈ s, c.isAlpha = false) :
    isMatchAll s = false := by
  obtain ⟨c, hc, hca⟩ := hx
  have htotal : s ≠ "TOTAL".toList := by
    intro hs
    have hall : "TOTAL".toList.all Char.isAlpha := by decide
    have ht : c.isAlpha = true := List.all_eq_true.1 hall c (hs ▸ hc)
    rw [hca] at ht
    cases ht
  rw [isMatchAll, h.trim_eq, Bool.or_eq_false_iff]
  exact ⟨by simp [h.ne_nil], beq_false_of_ne htotal⟩

/-- The text of a sentence is neither empty nor `TOTAL`. -/
theorem Sentence.isMatchAll_text (s : Sentence) : isMatchAll s.text = false :=
  isMatchAll_of_tight s.expands.tight (exists_not_isAlpha_joined
    (fun g : Group => exists_not_isAlpha_joined Piece.exists_not_isAlpha g) s)

end SurveyTables.Equation
