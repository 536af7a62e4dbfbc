/-!
# JSON values

* `Json` : a value. An object is the list of its fields in the order written, with repeated keys
  kept, so that a reader of a shape can refuse them; a number written as an integer within the
  64-bit ranges is kept apart from one that is not. What is well-formed but denotes no value is
  `unreadable`: it may stand where nobody looks at it;
* `Json.isReadable` : nothing unreadable stands anywhere in a value;
* `Json.float?`, `Json.string?`, … : what a value is, if it is of that kind.
-/

namespace SurveyTables

/-- A JSON value. Unreadable is a number too large for a double, a string with half of a surrogate
pair, an object with such a key, and a container inside too many others. -/
inductive Json where
  | null
  | bool (b : Bool)
  | int (i : Int)
  | real (x : Float)
  | string (s : String)
  | array (items : List Json)
  | object (fields : List (String × Json))
  | unreadable

namespace Json

instance : Inhabited Json := ⟨.null⟩

mutual

def isReadable : Json → Bool
  | .unreadable => false
  | .array items => areReadable items
  | .object fields => areFieldsReadable fields
  | _ => true

/-- Nothing in the values is unreadable. -/
def areReadable : List Json → Bool
  | [] => true
  | v :: vs => isReadable v && areReadable vs

/-- Nothing in the values of the fields is unreadable. -/
def areFieldsReadable : List (String × Json) → Bool
  | [] => true
  | (_, v) :: fs => isReadable v && areFieldsReadable fs

end

/-- The integer that is a natural number. -/
def nat (n : Nat) : Json := .int n

def float? : Json → Option Float
  | .int i => some (Float.ofInt i)
  | .real x => some x
  | _ => none

/-- The natural number below `bound`, written as an integer. -/
def natBelow? (bound : Nat) : Json → Option Nat
  | .int i => if 0 ≤ i ∧ i < bound then some i.toNat else none
  | _ => none

def string? : Json → Option String
  | .string s => some s
  | _ => none

/-- The truth value. -/
def bool? : Json → Option Bool
  | .bool b => some b
  | _ => none

/-- The items of an array. -/
def array? : Json → Option (List Json)
  | .array items => some items
  | _ => none

/-- The fields of an object. -/
def object? : Json → Option (List (String × Json))
  | .object fields => some fields
  | _ => none

/-- The value of an object's last field with this key; a value that is no object has none. -/
def field? (v : Json) (key : String) : Option Json :=
  v.object?.bind fun fields => fields.reverse.lookup key

end Json

end SurveyTables
