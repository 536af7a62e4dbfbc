/-!
# Searching texts

* `occursIn` : a word occurs somewhere in a text;
* `lower` : a text in lower case, as far as a search for words in ASCII letters can tell.
-/

namespace SurveyTables.Text

def occursIn (w : List Char) : List Char → Bool
  | [] => w.isEmpty
  | c :: r => w.isPrefixOf (c :: r) || occursIn w r

/-- The lower-case form of a character, if it has an ASCII letter in it; else the character. Two
characters outside ASCII have one: the kelvin sign and the capital `I` with a dot, which keeps its
dot as a combining mark. -/
def lowerChar (c : Char) : List Char :=
  if c = '\u212a' then ['k']
  else if c = '\u0130' then ['i', '\u0307']
  else [c.toLower]

/-- The text in lower case. Only characters whose lower-case form has an ASCII letter change, since
words in ASCII letters are all that is looked for. -/
def lower (s : List Char) : List Char := s.flatMap lowerChar

end SurveyTables.Text
