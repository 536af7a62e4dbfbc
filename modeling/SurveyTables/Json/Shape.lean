import SurveyTables.Json.Basic

/-!
# Shapes of JSON values

Readers of values of a certain shape. An object with a shape may have more fields than the shape
names, whose values may be unreadable, but none that it names twice.

* `fieldOf?` : the field with one of some names;
* `required?`, `withDefault?`, `optional?` : reading a field that has to be there, that has a value
  to fall back on, or that may be missing or null;
* `listOf?`, `nullable?` : reading arrays and values that may be null;
* `unitName?`, `keptName?` : reading bare names;
* `keptFields?` : the fields of an object that is kept as a whole before its shape is known.
-/

namespace SurveyTables.Json

/-- The fields of an object. -/
abbrev Fields := List (String × Json)

/-- The value of the field that has one of the names, if there is one; nothing at all if there are
several. -/
def fieldOf? (names : List String) (fields : Fields) : Option (Option Json) :=
  match fields.filter fun f => names.contains f.1 with
  | [] => some none
  | [f] => some (some f.2)
  | _ => none

def required? {α : Type} (read : Json → Option α) (names : List String) (fields : Fields) :
    Option α :=
  (fieldOf? names fields).bind fun v => v.bind read

def withDefault? {α : Type} (read : Json → Option α) (fallback : α) (names : List String)
    (fields : Fields) : Option α :=
  (fieldOf? names fields).bind fun v =>
    match v with
    | none => some fallback
    | some v => read v

def nullable? {α : Type} (read : Json → Option α) : Json → Option (Option α)
  | .null => some none
  | v => (read v).map some

def optional? {α : Type} (read : Json → Option α) (names : List String) (fields : Fields) :
    Option (Option α) :=
  withDefault? (nullable? read) none names fields

def listOf? {α : Type} (read : Json → Option α) (v : Json) : Option (List α) :=
  v.array?.bind fun items => items.mapM read

def unitName? : Json → Option String
  | .string s => some s
  | .object [(s, .null)] => some s
  | _ => none

/-- A name in a value that is kept before its shape is known: the one field of an object may be empty
too. -/
def keptName? : Json → Option String
  | .object [(s, .object [])] => some s
  | v => v.unitName?

def keptFields? (v : Json) : Option Fields := if v.isReadable then v.object? else none

/-- A value that may be missing, written as null. -/
def ofOption {α : Type} (write : α → Json) : Option α → Json
  | none => .null
  | some a => write a

/-- An array of written values. -/
def ofList {α : Type} (write : α → Json) (l : List α) : Json := .array (l.map write)

end SurveyTables.Json
