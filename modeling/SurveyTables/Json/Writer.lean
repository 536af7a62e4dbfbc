import SurveyTables.Json.Token

/-!
# Writing JSON

* `tokens`, `compact` : a value on one line without blanks, token after token;
* `pretty` : a value on several lines, two blanks deeper inside each container; an empty container
  stays on one line.
-/

namespace SurveyTables.Json

mutual

def tokens : Json → List Token
  | .array items => .openArray :: itemTokens items ++ [.closeArray]
  | .object fields => .openObject :: fieldTokens fields ++ [.closeObject]
  | v => [.scalar v]

/-- The tokens of the items of an array, with commas between them. -/
def itemTokens : List Json → List Token
  | [] => []
  | [v] => v.tokens
  | v :: vs => v.tokens ++ .comma :: itemTokens vs

/-- The tokens of the fields of an object, with commas between them. -/
def fieldTokens : List (String × Json) → List Token
  | [] => []
  | [(k, v)] => .scalar (.string k) :: .colon :: v.tokens
  | (k, v) :: fs => .scalar (.string k) :: .colon :: v.tokens ++ .comma :: fieldTokens fs

end

def compact (v : Json) : String := String.ofList (v.tokens.flatMap Token.text)

/-- A new line with the blanks of a depth. -/
def newLine (depth : Nat) : List Char := '\n' :: List.replicate (2 * depth) ' '

mutual

/-- The value on several lines, for a value at the given depth. -/
def prettyText (depth : Nat) : Json → List Char
  | .array [] => "[]".toList
  | .array items => '[' :: prettyItems (depth + 1) items ++ newLine depth ++ [']']
  | .object [] => ['\x7b', '\x7d']
  | .object fields => '\x7b' :: prettyFields (depth + 1) fields ++ newLine depth ++ ['\x7d']
  | v => scalarText v

/-- The items of an array, each on its own line. -/
def prettyItems (depth : Nat) : List Json → List Char
  | [] => []
  | [v] => newLine depth ++ v.prettyText depth
  | v :: vs => newLine depth ++ v.prettyText depth ++ ',' :: prettyItems depth vs

/-- The fields of an object, each on its own line. -/
def prettyFields (depth : Nat) : List (String × Json) → List Char
  | [] => []
  | [(k, v)] => newLine depth ++ stringText k ++ ": ".toList ++ v.prettyText depth
  | (k, v) :: fs =>
    newLine depth ++ stringText k ++ ": ".toList ++ v.prettyText depth ++ ',' ::
      prettyFields depth fs

end

def pretty (v : Json) : String := String.ofList (v.prettyText 0)

end SurveyTables.Json
