import SurveyTables.Json.Number
import SurveyTables.Json.Quoted

/-!
# JSON tokens

* `Token` : a bracket, a brace, a colon, a comma or a scalar value;
* `Token.text` : how it is written;
* `Token.read?` : the token at the start of a text; `length_lt_of_read?` says that it uses some of
  the text up;
* `Token.readAll?` : a text cut into tokens, blanks between them skipped.
-/

namespace SurveyTables.Json

/-- A lexical unit of a JSON text. A string with a character missing, because half of a surrogate
pair stands alone in it, is no scalar value. -/
inductive Token where
  | openArray
  | closeArray
  | openObject
  | closeObject
  | colon
  | comma
  | scalar (v : Json)
  | brokenString

/-! ## Writing -/

/-- A scalar value; a list or an object has no text of its own. What denotes no value is written as
a number that is too large for a double. -/
def scalarText : Json → List Char
  | .null => "null".toList
  | .bool true => "true".toList
  | .bool false => "false".toList
  | .int i => (toString i).toList
  | .real x => realText x
  | .string s => stringText s
  | .unreadable => "1e999".toList
  | .array _ | .object _ => []

def Token.text : Token → List Char
  | .openArray => ['[']
  | .closeArray => [']']
  | .openObject => ['\x7b']
  | .closeObject => ['\x7d']
  | .colon => [':']
  | .comma => [',']
  | .scalar v => scalarText v
  | .brokenString => "\"\\ud800\"".toList

/-! ## Reading -/

/-- The string with the given characters, if none is missing. -/
def Token.ofChars (cs : List (Option Char)) : Token :=
  match cs.mapM id with
  | some cs => .scalar (.string (String.ofList cs))
  | none => .brokenString

/-- The rest of a text after a word, with the value that the word stands for. -/
def readWord? (word : List Char) (v : Json) (s : List Char) : Option (Token × List Char) :=
  (word.isPrefixOf? s).map fun r => (.scalar v, r)

def Token.read? : List Char → Option (Token × List Char)
  | [] => none
  | c :: r =>
    if c = '[' then some (.openArray, r)
    else if c = ']' then some (.closeArray, r)
    else if c = '\x7b' then some (.openObject, r)
    else if c = '\x7d' then some (.closeObject, r)
    else if c = ':' then some (.colon, r)
    else if c = ',' then some (.comma, r)
    else if c = '"' then (readString? r).map fun p => (.ofChars p.1, p.2)
    else if c = 'n' then readWord? "ull".toList .null r
    else if c = 't' then readWord? "rue".toList (.bool true) r
    else if c = 'f' then readWord? "alse".toList (.bool false) r
    else (readNumber? (c :: r)).map fun p => (.scalar p.1, p.2)

theorem length_le_of_isPrefixOf? {w s r : List Char} (h : w.isPrefixOf? s = some r) :
    r.length ≤ s.length := by
  induction w generalizing s with
  | nil =>
    obtain rfl := Option.some.inj h
    exact Nat.le_refl _
  | cons a w ih =>
    cases s with
    | nil =>
      have hnone : (none : Option (List Char)) = some r := h
      simp at hnone
    | cons b s =>
      have hif : (if a == b then w.isPrefixOf? s else none) = some r := h
      split at hif
      · have := ih hif
        simp only [List.length_cons]
        omega
      · simp at hif

theorem length_le_of_readWord? {w s : List Char} {v : Json} {p : Token × List Char}
    (h : readWord? w v s = some p) : p.2.length ≤ s.length := by
  obtain ⟨r, hr, rfl⟩ := Option.map_eq_some_iff.1 h
  exact length_le_of_isPrefixOf? hr

theorem length_lt_of_read? {s : List Char} {p : Token × List Char} (h : Token.read? s = some p) :
    p.2.length < s.length := by
  unfold Token.read? at h
  split at h
  · simp at h
  rename_i c r
  iterate 6
    split at h
    · obtain rfl := Option.some.inj h
      simp
  split at h
  · obtain ⟨q, hq, rfl⟩ := Option.map_eq_some_iff.1 h
    have := length_le_of_readString? hq
    simp only [List.length_cons]
    omega
  iterate 3
    split at h
    · have := length_le_of_readWord? h
      simp only [List.length_cons]
      omega
  obtain ⟨q, hq, rfl⟩ := Option.map_eq_some_iff.1 h
  exact length_lt_of_readNumber? hq

/-- The characters that may stand between tokens. -/
def isSpace (c : Char) : Bool := c == ' ' || c == '\t' || c == '\n' || c == '\r'

def Token.readAll? (s : List Char) : Option (List Token) :=
  match s with
  | [] => some []
  | c :: r =>
    if isSpace c then readAll? r
    else
      match h : Token.read? (c :: r) with
      | none => none
      | some (t, rest) =>
        have : rest.length < (c :: r).length := length_lt_of_read? h
        (readAll? rest).map (t :: ·)
termination_by s.length
decreasing_by
  · exact Nat.lt_succ_self _
  · exact this

end SurveyTables.Json
