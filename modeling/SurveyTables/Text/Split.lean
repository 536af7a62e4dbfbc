import SurveyTables.Text.Blank

/-!
# Cutting a text into pieces

* `splitOn` : the pieces between the occurrences of one character;
* `splitOnce?` : the two sides of the first occurrence;
* `dropKeyword?` : reading a word in capital letters, in any case of the text;
* `Connective` : a separator with two spellings, a word between blanks (`AND`) and a symbol (`&`);
  `Connective.split` cuts a text at every occurrence, leftmost first, and keeps empty pieces.
-/

namespace SurveyTables.Text

/-- Puts a character in front of the first piece. -/
def consFirst (c : Char) : List (List Char) → List (List Char)
  | [] => [[c]]
  | p :: ps => (c :: p) :: ps

def splitOn (sep : Char) : List Char → List (List Char)
  | [] => [[]]
  | c :: r => if c = sep then [] :: splitOn sep r else consFirst c (splitOn sep r)

def splitOnce? (sep : Char) : List Char → Option (List Char × List Char)
  | [] => none
  | c :: r =>
    if c = sep then some ([], r) else (splitOnce? sep r).map fun p => (c :: p.1, p.2)

def dropKeyword? : List Char → List Char → Option (List Char)
  | [], s => some s
  | _ :: _, [] => none
  | w :: ws, c :: cs => if c.toUpper = w then dropKeyword? ws cs else none

theorem length_le_of_dropKeyword? {w s r : List Char} (h : dropKeyword? w s = some r) :
    r.length ≤ s.length := by
  fun_induction dropKeyword? w s with
  | case1 s => simp_all
  | case2 => simp at h
  | case3 ws c cs ih =>
    have := ih h
    simp only [List.length_cons]
    omega
  | case4 => simp at h

/-- A separator: a word in capitals between blanks, or a symbol. -/
structure Connective where
  word : List Char
  symbol : Char

namespace Connective

/-- The rest of the text after a separator at its very start: the blanks before the word and those
after it belong to the separator. -/
def drop? (k : Connective) : List Char → Option (List Char)
  | [] => none
  | c :: r =>
    if isBlank c then (dropKeyword? k.word (trimStart r)).bind skipBlanks?
    else if c = k.symbol then some r else none

theorem length_lt_of_drop? {k : Connective} {s r : List Char} (h : k.drop? s = some r) :
    r.length < s.length := by
  cases s with
  | nil => simp [drop?] at h
  | cons c t =>
    simp only [drop?] at h
    split at h
    · obtain ⟨u, hu, hr⟩ := Option.bind_eq_some_iff.1 h
      have h1 := length_le_of_dropKeyword? hu
      have h2 := length_trimStart_le t
      have h3 := length_lt_of_skipBlanks? hr
      simp only [List.length_cons]
      omega
    · split at h
      · obtain rfl := Option.some.inj h
        simp
      · simp at h

def split (k : Connective) : List Char → List (List Char)
  | [] => [[]]
  | c :: r =>
    match h : k.drop? (c :: r) with
    | some rest =>
      have : rest.length < (c :: r).length := length_lt_of_drop? h
      [] :: k.split rest
    | none => consFirst c (k.split r)
termination_by s => s.length
decreasing_by
  · exact this
  · exact Nat.lt_succ_self _

end Connective

end SurveyTables.Text
