/-!
# Control characters and sequences

What a terminal does not show of a text: control characters, and the sequences that an escape
character opens. A log is written without them.

* `SequencePart` : where in a sequence a text stands; `SequencePart.next` goes on by a character,
  and `SequencePart.shows` says whether the character is shown;
* `visible` : the characters of a text that are shown.
-/

namespace SurveyTables.Text

/-- A tab, a line end or a form feed: a control character that lays text out and is shown. -/
def isLayout (c : Char) : Bool := ['\t', '\n', '\x0c', '\r'].contains c

/-- A character that is shown outside of sequences. -/
def isShown (c : Char) : Bool :=
  isLayout c || decide (' ' ≤ c ∧ c ≤ '~') || decide (0x80 ≤ c.toNat)

/-- The UTF-8 form of the character has the octet in it that ends a string. -/
def endsString (c : Char) : Bool := (String.utf8EncodeChar c).contains 0x9C

/-- Where a text stands: outside of sequences; after an escape character, or after the blanks and
marks that may follow it; in the parameters of a control sequence or of a device string; in a string
up to its terminator; or in a system command, which a bell ends. -/
inductive SequencePart where
  | plain
  | escape
  | escapeMarks
  | control
  | device
  | string
  | command
  deriving DecidableEq, Repr

namespace SequencePart

/-- Where a text stands after the character that follows an escape character. -/
def afterEscape (c : Char) : SequencePart :=
  if ' ' ≤ c ∧ c ≤ '/' then .escapeMarks
  else if c = '[' then .control
  else if c = ']' then .command
  else if c = 'P' then .device
  else if c = 'X' ∨ c = '^' ∨ c = '_' then .string
  else if '0' ≤ c ∧ c ≤ '~' then .plain
  else .escape

/-- Where a text stands after one more character. An escape character opens a sequence anywhere, and
the cancel and substitute characters end any. -/
def next (p : SequencePart) (c : Char) : SequencePart :=
  if c = '\x1b' then .escape
  else if c = '\x18' ∨ c = '\x1a' then .plain
  else match p with
    | .plain => .plain
    | .escape => afterEscape c
    | .escapeMarks => if '0' ≤ c ∧ c ≤ '~' then .plain else .escapeMarks
    | .control => if '@' ≤ c ∧ c ≤ '~' then .plain else .control
    | .device => if '@' ≤ c ∧ c ≤ '~' then .string else .device
    | .string => if endsString c then .plain else .string
    | .command => if c = '\x07' then .plain else .command

def shows : SequencePart → Char → Bool
  | .plain, c => isShown c
  | .escape, c => isLayout c
  | .escapeMarks, c => isLayout c
  | .control, c => isLayout c
  | .device, _ => false
  | .string, _ => false
  | .command, _ => false

end SequencePart

/-- The characters shown of a text that stands at `p`. Layout inside a sequence interrupts it: what
follows is `shown` as outside of sequences up to the next control character, with which the sequence
goes on unless a character beyond ASCII was shown. -/
def visibleFrom (p : SequencePart) (shown : Bool) : List Char → List Char
  | [] => []
  | c :: r =>
    if (if shown then SequencePart.plain else p).shows c then
      c :: visibleFrom (if c.toNat < 0x80 then p else .plain) true r
    else visibleFrom (p.next c) false r

def visible (s : List Char) : List Char := visibleFrom .plain false s

end SurveyTables.Text
