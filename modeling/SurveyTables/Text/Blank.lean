/-!
# Blank characters

* `inRanges` : membership of a character in a table of code point ranges;
* `isBlank` : the Unicode property `White_Space`;
* `trim` : a text without the blanks at its two ends.

A text handled character by character is a `List Char` throughout the library; `trimmed` is the
same cut on a `String`.
-/

namespace SurveyTables.Text

def inRanges (ranges : List (Nat × Nat)) (c : Char) : Bool :=
  ranges.any fun r => decide (r.1 ≤ c.toNat) && decide (c.toNat ≤ r.2)

/-- The code points with the property `White_Space`. -/
def blankRanges : List (Nat × Nat) :=
  [(0x09, 0x0D), (0x20, 0x20), (0x85, 0x85), (0xA0, 0xA0), (0x1680, 0x1680), (0x2000, 0x200A),
    (0x2028, 0x2029), (0x202F, 0x202F), (0x205F, 0x205F), (0x3000, 0x3000)]

def isBlank (c : Char) : Bool := inRanges blankRanges c

/-- The text without its leading blanks. -/
def trimStart (s : List Char) : List Char := s.dropWhile isBlank

/-- The text without its trailing blanks. -/
def trimEnd (s : List Char) : List Char := (s.reverse.dropWhile isBlank).reverse

def trim (s : List Char) : List Char := trimEnd (trimStart s)

def trimmed (s : String) : String := String.ofList (trim s.toList)

/-! ## Blanks in front -/

theorem length_trimStart_le (s : List Char) : (trimStart s).length ≤ s.length :=
  (List.dropWhile_suffix _).length_le

/-- The text after one or more leading blanks; nothing if it starts otherwise. -/
def skipBlanks? : List Char → Option (List Char)
  | [] => none
  | c :: r => if isBlank c then some (trimStart r) else none

theorem length_lt_of_skipBlanks? {s r : List Char} (h : skipBlanks? s = some r) :
    r.length < s.length := by
  cases s with
  | nil => simp [skipBlanks?] at h
  | cons c t =>
    simp only [skipBlanks?] at h
    split at h
    · obtain rfl := Option.some.inj h
      have := length_trimStart_le t
      simp only [List.length_cons]
      omega
    · simp at h

end SurveyTables.Text
