import SurveyTables.Choice
import SurveyTables.Net.Collection

/-!
# Nets in words

* `Net.summary` : one net, by the labels of its codes or by its bounds;
* `Net.reportLabel` : the name of a net in a table;
* `Nets.text` : all nets of a question on one line. A pair of top and bottom boxes is named as one.
-/

namespace SurveyTables

def RangeNet.summary (n : RangeNet) : String :=
  let first := numberText n.value1
  match n.operator with
  | .atLeast => first ++ "+"
  | .greater => "> " ++ first
  | .greaterEqual => "≥ " ++ first
  | .less => "< " ++ first
  | .lessEqual => "≤ " ++ first
  | .exact => first ++ " (exact)"
  | .between => first ++ " - " ++ (n.value2.map numberText).getD "?"

def Net.summary (choices : List Choice) : Net → String
  | .codes n => "Net: " ++ ", ".intercalate (n.codes.map (Choice.labelOf choices))
  | .range n => "Net: " ++ n.summary

/-- The text without the marks `Net: ` in front. -/
def dropNetMarks : List Char → List Char
  | 'N' :: 'e' :: 't' :: ':' :: ' ' :: r => dropNetMarks r
  | s => s

def Net.reportLabel (n : Net) : String :=
  match labelGiven n.label? with
  | some l => l
  | none => String.ofList (dropNetMarks (n.summary []).toList)

/-- A codes net as an item of a line: its label, or the labels of its codes, and the codes. A net
without codes is left out. -/
def CodesNet.item? (choices : List Choice) (n : CodesNet) : Option String :=
  if n.codes.isEmpty then none
  else
    let separator := if n.codes.length = 2 then " or " else ", "
    let name := n.label.getD (separator.intercalate (n.codes.map (Choice.labelOf choices)))
    some (name ++ " (" ++ ", ".intercalate n.codes ++ ")")

/-- The bounds of a range in short form. -/
def RangeNet.shortText (n : RangeNet) : String :=
  let first := numberText n.value1
  match n.operator with
  | .between => first ++ (n.value2.map fun upper => "–" ++ numberText upper).getD ""
  | .atLeast => first ++ "+"
  | .greater => ">" ++ first
  | .less => "<" ++ first
  | .greaterEqual => "≥" ++ first
  | .lessEqual => "≤" ++ first
  | .exact => first ++ " (exact)"

/-- A net as an item of a line. -/
def Net.item? (choices : List Choice) : Net → Option String
  | .codes n => n.item? choices
  | .range n => some (n.label.getD n.shortText)

namespace Nets

/-- Some net has this label. -/
def hasLabel (nets : Nets) (label : String) : Bool := nets.any fun n => n.label? == some label

/-- The name of two nets that are the top and the bottom boxes of a scale. -/
def boxPair? (nets : Nets) : Option String :=
  if nets.length ≠ 2 then none
  else if hasLabel nets "T2B" && hasLabel nets "B2B" then some "T2B, B2B"
  else if hasLabel nets "T3B" && hasLabel nets "B3B" then some "T3B, B3B"
  else none

def text (choices : List Choice) (nets : Nets) : String :=
  match boxPair? nets with
  | some pair => "Net: " ++ pair
  | none =>
    let items := nets.filterMap (Net.item? choices)
    if items.isEmpty then "" else "Net: " ++ ", ".intercalate items

end Nets

end SurveyTables
