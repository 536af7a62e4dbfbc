import SurveyTables.Text.DecimalDigit
import SurveyTables.Text.Split
import SurveyTables.Text.WordChar

/-!
# Clauses `V BETWEEN a AND b`

A clause is shorthand for the two conditions `V>=a AND V<=b` and is written out before a text is
cut at its connectives, so that its own `AND` is not taken for one.

* `Between.read?` : a clause at the very start of a text;
* `expandBetween` : a text with every clause written out, from left to right. A clause starts at a
  word boundary.
-/

namespace SurveyTables

open Text

/-- A clause: the code of a variable and the texts of its two bounds. -/
structure Between where
  code : List Char
  low : List Char
  high : List Char
  deriving DecidableEq, Repr

namespace Between

/-- The characters of a variable in a clause: ASCII letters in any case, digits and the underscore.
Case is that of all scripts, under which the long s and the kelvin sign are spellings of `s` and
`k`. -/
def isNameChar (c : Char) : Bool :=
  c.isAlphanum || c == '_' || c == '\u017f' || c == '\u212a'

/-- A minus sign at the start of a text, if there is one, and what is left. -/
def takeSign : List Char → List Char × List Char
  | '-' :: s => (['-'], s)
  | s => ([], s)

/-- A point and one or more digits at the start of a text, if there are any, and what is left. -/
def takeFraction : List Char → List Char × List Char
  | '.' :: s =>
    if (s.takeWhile isDecimalDigit).isEmpty then ([], '.' :: s)
    else ('.' :: s.takeWhile isDecimalDigit, s.dropWhile isDecimalDigit)
  | s => ([], s)

/-- A number at the start of a text, and what is left: an optional minus sign, digits and an
optional fraction. -/
def takeNumber? (s : List Char) : Option (List Char × List Char) :=
  let sign := takeSign s
  let whole := sign.2.takeWhile isDecimalDigit
  let fraction := takeFraction (sign.2.dropWhile isDecimalDigit)
  if whole.isEmpty then none else some (sign.1 ++ whole ++ fraction.1, fraction.2)

/-- The rest of a text after blanks, a keyword and blanks. -/
def skipWord? (word s : List Char) : Option (List Char) := do
  let s ← skipBlanks? s
  let s ← dropKeyword? word s
  skipBlanks? s

def read? (s : List Char) : Option (Between × List Char) := do
  let name := s.takeWhile isNameChar
  if name.isEmpty then none
  let s ← skipWord? "BETWEEN".toList (s.dropWhile isNameChar)
  let low ← takeNumber? s
  let s ← skipWord? "AND".toList low.2
  let high ← takeNumber? s
  return (⟨name, low.1, high.1⟩, high.2)

/-- The two conditions that a clause stands for. -/
def conditionsText (b : Between) : List Char :=
  b.code ++ ">=".toList ++ b.low ++ " AND ".toList ++ b.code ++ "<=".toList ++ b.high

theorem length_takeSign_le (s : List Char) : (takeSign s).2.length ≤ s.length := by
  unfold takeSign
  split <;> simp

theorem length_takeFraction_le (s : List Char) : (takeFraction s).2.length ≤ s.length := by
  unfold takeFraction
  split
  · split
    · simp
    · have := (List.dropWhile_suffix isDecimalDigit (l := ‹List Char›)).length_le
      simp only [List.length_cons]
      omega
  · simp

theorem length_le_of_takeNumber? {s : List Char} {p : List Char × List Char}
    (h : takeNumber? s = some p) : p.2.length ≤ s.length := by
  simp only [takeNumber?] at h
  split at h
  · simp at h
  · obtain rfl := Option.some.inj h
    have h1 := length_takeSign_le s
    have h2 := (List.dropWhile_suffix isDecimalDigit (l := (takeSign s).2)).length_le
    have h3 := length_takeFraction_le ((takeSign s).2.dropWhile isDecimalDigit)
    exact Nat.le_trans h3 (Nat.le_trans h2 h1)

theorem length_lt_of_skipWord? {w s r : List Char} (h : skipWord? w s = some r) :
    r.length < s.length := by
  simp only [skipWord?, Option.bind_eq_bind, Option.bind_eq_some_iff] at h
  obtain ⟨a, ha, b, hb, hr⟩ := h
  have h1 := length_lt_of_skipBlanks? ha
  have h2 := length_le_of_dropKeyword? hb
  have h3 := length_lt_of_skipBlanks? hr
  omega

theorem length_lt_of_read? {s : List Char} {p : Between × List Char} (h : read? s = some p) :
    p.2.length < s.length := by
  simp only [read?] at h
  split at h
  · simp at h
  · simp only [Option.bind_eq_bind, Option.pure_def, Option.bind_eq_some_iff,
      Option.some.injEq] at h
    obtain ⟨a, ha, low, hlow, b, hb, high, hhigh, rfl⟩ := h
    have h0 := (List.dropWhile_suffix isNameChar (l := s)).length_le
    have h1 := length_lt_of_skipWord? ha
    have h2 := length_le_of_takeNumber? hlow
    have h3 := length_lt_of_skipWord? hb
    have h4 := length_le_of_takeNumber? hhigh
    simp only
    omega

end Between

/-- The text with every clause written out. `afterWord` says that a word character stands before
the text, so that no clause can start here. -/
def expandBetween (afterWord : Bool) : List Char → List Char
  | [] => []
  | c :: r =>
    match h : if afterWord then none else Between.read? (c :: r) with
    | some (b, rest) =>
      have : rest.length < (c :: r).length := by
        split at h
        · simp at h
        · exact Between.length_lt_of_read? h
      b.conditionsText ++ expandBetween true rest
    | none => c :: expandBetween (isWordChar c) r
termination_by s => s.length
decreasing_by
  · exact this
  · exact Nat.lt_succ_self _

end SurveyTables
