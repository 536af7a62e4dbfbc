import SurveyTables.Equation.Reader
import SurveyTables.Proofs.Decimal.Numeral
import SurveyTables.Proofs.Text.Separator

/-!
# The grammar of equations

What a well-formed equation is made of, how each part is written and what it means, without a word
on how it is read.

* `Comparison`, `Clause` : the two kinds of `Piece`, a condition without blanks and connectives and
  a clause `V BETWEEN a AND b`;
* `Group`, `Sentence` : pieces under conjunction, groups under disjunction;
* `Piece.comparisons` : the comparisons that a piece is written out as.
-/

namespace SurveyTables.Equation

open Text

theorem conjunction_plain : conjunction.Plain := by
  constructor <;> decide +kernel

theorem disjunction_plain : disjunction.Plain := by
  constructor <;> decide +kernel

theorem disjunction_apart_conjunction : disjunction.Apart conjunction := by
  constructor <;> decide

/-! ## Pieces -/

/-- The blanks and the symbols of the connectives, with one of which whatever follows a piece
begins. -/
def isBoundaryChar (c : Char) : Bool :=
  isBlank c || c == disjunction.symbol || c == conjunction.symbol

/-- The characters of the value of a comparison. -/
def isValueChar (c : Char) : Bool := !isBoundaryChar c

/-- A condition `VARIABLE OPERATOR VALUE` without blanks and symbols of connectives. -/
structure Comparison where
  code : Run Condition.isCodeChar
  operator : Operator
  value : Run isValueChar

/-- The comparison as it is written. -/
def Comparison.text (c : Comparison) : List Char :=
  c.code.chars ++ c.operator.symbol.toList ++ c.value.chars

/-- The text denotes a condition, and the record satisfies it. -/
def Comparison.holds (r : Record) (c : Comparison) : Bool :=
  match Condition.read c.text with
  | .ok k => k.holds r
  | .error _ => false

/-- A clause `V BETWEEN a AND b`. -/
structure Clause where
  code : Run Condition.isCodeChar
  between : Spaced "BETWEEN".toList
  low : Numeral
  and : Spaced "AND".toList
  high : Numeral

/-- The clause as it is written. -/
def Clause.text (c : Clause) : List Char :=
  c.code.chars ++ c.between.text ++ c.low.text ++ c.and.text ++ c.high.text

/-- The response to the variable is a number from the lower to the upper bound. -/
def Clause.holds (r : Record) (c : Clause) : Bool :=
  (r.response? (String.ofList c.code.chars)).any fun v =>
    v.number?.any fun x => decide (c.low.value ≤ x) && decide (x ≤ c.high.value)

/-- What stands between two connectives. -/
inductive Piece where
  | comparison (c : Comparison)
  | clause (c : Clause)

/-- The piece as it is written. -/
def Piece.text : Piece → List Char
  | .comparison c => c.text
  | .clause c => c.text

/-- The record satisfies the piece. -/
def Piece.holds (r : Record) : Piece → Bool
  | .comparison c => c.holds r
  | .clause c => c.holds r

/-! ## Sentences -/

abbrev Group := Joined conjunction Piece

abbrev Sentence := Joined disjunction Group

/-- The pieces of the group with their separators. -/
def Group.text (g : Group) : List Char := Joined.text Piece.text g

/-- The groups of the sentence with their separators. -/
def Sentence.text (s : Sentence) : List Char := Joined.text Group.text s

/-- The record satisfies every piece of the group. -/
def Group.holds (r : Record) (g : Group) : Bool := g.items.all (Piece.holds r)

/-! ## Characters of a comparison -/

theorem isCodeChar_of_isAlpha {c : Char} (h : c.isAlpha) : Condition.isCodeChar c := by
  rw [Condition.isCodeChar, Char.isAlphanum, h, Bool.true_or, Bool.true_or]

theorem isBlank_of_isCodeChar {c : Char} (h : Condition.isCodeChar c) : isBlank c = false := by
  rw [Condition.isCodeChar, Bool.or_eq_true, beq_iff_eq] at h
  rcases h with h | rfl
  · exact isBlank_of_isAlphanum h
  · decide

theorem isBoundaryChar_of_isBlank {c : Char} (h : isBlank c) : isBoundaryChar c := by
  rw [isBoundaryChar, h, Bool.true_or, Bool.true_or]

theorem isBlank_of_isValueChar {c : Char} (h : isValueChar c) : isBlank c = false := by
  rw [Bool.eq_false_iff]
  intro hb
  rw [isValueChar, isBoundaryChar_of_isBlank hb] at h
  cases h

theorem ne_symbol_of_isValueChar {k : Connective} (hs : isBoundaryChar k.symbol) {c : Char}
    (h : isValueChar c) : c ≠ k.symbol := by
  rintro rfl
  rw [isValueChar, hs] at h
  cases h

theorem isValueChar_of_isCodeChar {c : Char} (h : Condition.isCodeChar c) : isValueChar c := by
  have hb := isBlank_of_isCodeChar h
  have ho : c ≠ disjunction.symbol := by
    rintro rfl
    revert h
    decide
  have ha : c ≠ conjunction.symbol := by
    rintro rfl
    revert h
    decide
  simp [isValueChar, isBoundaryChar, hb, ho, ha]

theorem mem_symbol (op : Operator) : ∀ c ∈ op.symbol.toList,
    isValueChar c ∧ c.isAlpha = false ∧ Condition.isCodeChar c = false := by
  have hall : op.symbol.toList.all fun c =>
      isValueChar c && !c.isAlpha && !Condition.isCodeChar c := by
    cases op <;> decide
  intro c hc
  have h := List.all_eq_true.1 hall c hc
  simp only [Bool.and_eq_true, Bool.not_eq_true'] at h
  exact ⟨h.1.1, h.1.2, h.2⟩

theorem isValueChar_of_mem_numeral {n : Numeral} {c : Char} (h : c ∈ n.text) : isValueChar c := by
  rcases Numeral.mem_text h with h | rfl | rfl
  · have halnum : c.isAlphanum := Bool.or_eq_true_iff.2 (Or.inr h)
    exact isValueChar_of_isCodeChar (Bool.or_eq_true_iff.2 (Or.inl halnum))
  · decide
  · decide

namespace Comparison

theorem isValueChar_of_mem {c : Comparison} {x : Char} (h : x ∈ c.text) : isValueChar x := by
  rcases List.mem_append.1 h with h | h
  · rcases List.mem_append.1 h with h | h
    · exact isValueChar_of_isCodeChar (c.code.all x h)
    · exact (mem_symbol _ x h).1
  · exact c.value.all x h

theorem isBlank_of_mem (c : Comparison) : ∀ x ∈ c.text, isBlank x = false :=
  fun _ hx => isBlank_of_isValueChar (isValueChar_of_mem hx)

theorem exists_not_isAlpha (c : Comparison) : ∃ x ∈ c.text, x.isAlpha = false := by
  have hne : c.operator.symbol.toList ≠ [] := by cases c.operator <;> decide
  obtain ⟨x, hx⟩ := List.exists_mem_of_ne_nil _ hne
  exact ⟨x, List.mem_append_left _ (List.mem_append_right _ hx), (mem_symbol _ x hx).2.1⟩

theorem tight (c : Comparison) : Tight c.text :=
  Tight.of_forall (List.ne_nil_of_mem c.exists_not_isAlpha.choose_spec.1) c.isBlank_of_mem

end Comparison

/-! ## Clauses as comparisons -/

/-- The numeral as the value of a comparison. -/
def valueRun (n : Numeral) : Run isValueChar :=
  ⟨n.text, n.text_ne_nil, fun _ => isValueChar_of_mem_numeral⟩

/-- The first condition that a clause stands for. -/
def Clause.atLeast (c : Clause) : Comparison := ⟨c.code, .greaterEqual, valueRun c.low⟩

/-- The second condition that a clause stands for. -/
def Clause.atMost (c : Clause) : Comparison := ⟨c.code, .lessEqual, valueRun c.high⟩

/-- A gap of one space. -/
def space : Run isBlank := ⟨[' '], by decide, List.forall_mem_singleton.2 (by decide)⟩

/-- The separator between the two conditions of a clause. -/
def spacedAnd : conjunction.Spelling := .word ⟨space, ⟨"AND".toList, by decide⟩, space⟩

def Piece.comparisons : Piece → Joined conjunction Comparison
  | .comparison c => .single c
  | .clause c => .cons c.atLeast spacedAnd (.single c.atMost)

def Group.comparisons (g : Group) : Joined conjunction Comparison := Joined.bind Piece.comparisons g

end SurveyTables.Equation
