import SurveyTables.Json.Token

/-!
# Reading JSON

A text is read token by token. Between two tokens the reader stands at a `Place` inside the
containers that are still open.

* `Frame` : an open container, with the values read so far, latest first;
* `Place`, `State` : what may come next, and the open containers around it, innermost first;
* `State.step` : the state after one more token, if the token may stand there;
* `parse?` : the value of a whole text.

A container inside too many others, or with a key that denotes no text, is read to its end but is
`unreadable`.
-/

namespace SurveyTables.Json

/-- The fields of an object under way; a key that denotes no text is missing. -/
abbrev Entries := List (Option String × Json)

/-- A container that is still open while a value inside it is read. -/
inductive Frame where
  | array (items : List Json)
  | field (entries : Entries) (key : Option String)

/-- What may come next: a value, the start of an array or object, a key, a colon, the end or
continuation of an array or object, or nothing, because the value is complete. -/
inductive Place where
  | value
  | arrayStart
  | objectStart
  | key (entries : Entries)
  | colon (entries : Entries) (key : Option String)
  | afterItem (items : List Json)
  | afterField (entries : Entries)
  | done (v : Json)

/-- The place and the containers around it. -/
structure State where
  place : Place
  frames : List Frame

namespace State

/-- A value has been read to its end. -/
def complete (v : Json) : List Frame → State
  | [] => ⟨.done v, []⟩
  | .array items :: fs => ⟨.afterItem (v :: items), fs⟩
  | .field entries key :: fs => ⟨.afterField ((key, v) :: entries), fs⟩

/-- How many containers a readable container may stand in. -/
def greatestDepth : Nat := 126

/-- A container has been read to its end. -/
def close (v : Json) (frames : List Frame) : State :=
  complete (if (frames.drop greatestDepth).isEmpty then v else .unreadable) frames

/-- The object with the given fields, latest first. -/
def objectOf (entries : Entries) : Json :=
  match entries.reverse.mapM fun e => e.1.map fun key => (key, e.2) with
  | some fields => .object fields
  | none => .unreadable

/-- The first token of a value. -/
def begin? (frames : List Frame) : Token → Option State
  | .openArray => some ⟨.arrayStart, frames⟩
  | .openObject => some ⟨.objectStart, frames⟩
  | .scalar v => some (complete v frames)
  | .brokenString => some (complete .unreadable frames)
  | _ => none

/-- The place after a key. -/
def takeKey? (entries : Entries) : Token → Option Place
  | .scalar (.string key) => some (.colon entries (some key))
  | .brokenString => some (.colon entries none)
  | _ => none

def step (s : State) (t : Token) : Option State :=
  match s.place, t with
  | .value, t => begin? s.frames t
  | .arrayStart, .closeArray => some (close (.array []) s.frames)
  | .arrayStart, t => begin? (.array [] :: s.frames) t
  | .objectStart, .closeObject => some (close (.object []) s.frames)
  | .objectStart, t => (takeKey? [] t).map fun p => ⟨p, s.frames⟩
  | .key entries, t => (takeKey? entries t).map fun p => ⟨p, s.frames⟩
  | .colon entries key, .colon => some ⟨.value, .field entries key :: s.frames⟩
  | .afterItem items, .comma => some ⟨.value, .array items :: s.frames⟩
  | .afterItem items, .closeArray => some (close (.array items.reverse) s.frames)
  | .afterField entries, .comma => some ⟨.key entries, s.frames⟩
  | .afterField entries, .closeObject => some (close (objectOf entries) s.frames)
  | _, _ => none

/-- The value, if it is complete. -/
def result? (s : State) : Option Json :=
  match s.place with
  | .done v => some v
  | _ => none

end State

/-- The value that a list of tokens denotes. -/
def ofTokens? (ts : List Token) : Option Json :=
  (ts.foldlM State.step ⟨.value, []⟩).bind State.result?

def parse? (s : String) : Option Json := (Token.readAll? s.toList).bind ofTokens?

end SurveyTables.Json
