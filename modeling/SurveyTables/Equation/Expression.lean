import SurveyTables.Equation.Condition

/-!
# Filter expressions

An `Expression` is a tree of conditions under conjunctions and disjunctions; it may also be the one
that every record satisfies, or keep the text of a condition that could not be read, which no
record satisfies.

* `holds` : the verdict on a record (`allHold_eq`, `anyHold_eq`: on every or on some part);
* `leaves`, `conditions`, `hasUnparsed` : what stands at the ends of the tree, from left to right;
* `mapConditions` : the same tree with every condition replaced;
* `text` : the written form.
-/

namespace SurveyTables

/-- Which records are meant. -/
inductive Expression where
  | all
  | condition (c : Condition)
  | unparsed (text : String)
  | and (parts : List Expression)
  | or (parts : List Expression)

namespace Expression

/-- Every record is meant. -/
def isAll : Expression → Bool
  | .all => true
  | _ => false

mutual

def holds (r : Record) : Expression → Bool
  | .all => true
  | .condition c => c.holds r
  | .unparsed _ => false
  | .and parts => allHold r parts
  | .or parts => anyHold r parts

/-- The record satisfies every expression of a list. -/
def allHold (r : Record) : List Expression → Bool
  | [] => true
  | e :: es => e.holds r && allHold r es

/-- The record satisfies some expression of a list. -/
def anyHold (r : Record) : List Expression → Bool
  | [] => false
  | e :: es => e.holds r || anyHold r es

end

theorem allHold_eq (r : Record) (es : List Expression) : allHold r es = es.all (holds r) := by
  induction es with
  | nil => rfl
  | cons e es ih => simp [allHold, ih]

theorem anyHold_eq (r : Record) (es : List Expression) : anyHold r es = es.any (holds r) := by
  induction es with
  | nil => rfl
  | cons e es ih => simp [anyHold, ih]

mutual

def leaves : Expression → List Expression
  | .and parts => leavesOf parts
  | .or parts => leavesOf parts
  | e => [e]

/-- The leaves of each expression of a list. -/
def leavesOf : List Expression → List Expression
  | [] => []
  | e :: es => e.leaves ++ leavesOf es

end

/-- The condition that an expression is. -/
def condition? : Expression → Option Condition
  | .condition c => some c
  | _ => none

/-- The expression is a text that could not be read. -/
def isUnparsed : Expression → Bool
  | .unparsed _ => true
  | _ => false

def conditions (e : Expression) : List Condition := e.leaves.filterMap condition?

def hasUnparsed (e : Expression) : Bool := e.leaves.any isUnparsed

mutual

def mapConditions (f : Condition → Condition) : Expression → Expression
  | .all => .all
  | .condition c => .condition (f c)
  | .unparsed s => .unparsed s
  | .and parts => .and (mapConditionsIn f parts)
  | .or parts => .or (mapConditionsIn f parts)

/-- `mapConditions` on each expression of a list. -/
def mapConditionsIn (f : Condition → Condition) : List Expression → List Expression
  | [] => []
  | e :: es => e.mapConditions f :: mapConditionsIn f es

end

theorem mapConditionsIn_eq (f : Condition → Condition) (es : List Expression) :
    mapConditionsIn f es = es.map (mapConditions f) := by
  induction es with
  | nil => rfl
  | cons e es ih => simp [mapConditionsIn, ih]

mutual

def text : Expression → String
  | .all => "TOTAL"
  | .condition c => c.text
  | .unparsed s => s
  | .and parts => " AND ".intercalate (texts parts)
  | .or parts => " OR ".intercalate (texts parts)

/-- The written form of each expression of a list. -/
def texts : List Expression → List String
  | [] => []
  | e :: es => e.text :: texts es

end

theorem texts_eq (es : List Expression) : texts es = es.map text := by
  induction es with
  | nil => rfl
  | cons e es ih => simp [texts, ih]

end Expression

end SurveyTables
