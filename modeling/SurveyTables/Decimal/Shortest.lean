import SurveyTables.Decimal.Basic

/-!
# The fewest digits that read back

* `Tie` : which of two equally near numbers is taken;
* `neighbour?` : a decimal number of `n` digits next to a double that reads back as the double;
* `shortest` : the number with the fewest digits that does, and of those the nearest. Seventeen
  digits are always enough.

If any number of `n` digits reads back as `x`, so does one of the two that enclose `x`, because the
numbers that read back as `x` form an interval. So only those two are tried for each `n`.
-/

namespace SurveyTables.Decimal

/-- Which of two equally near numbers is taken: the larger one, or the one with the even last
digit. -/
inductive Tie where
  | up
  | toEven
  deriving DecidableEq, Repr

/-- The number `below` is taken rather than the next one, when `rest` of `unit` lies above it. -/
def Tie.takesBelow (tie : Tie) (below rest unit : Nat) : Bool :=
  decide (2 * rest < unit) ||
    (decide (2 * rest = unit) && decide (tie = .toEven) && decide (below % 2 = 0))

/-- Reading the number gives the magnitude of `x` again. -/
def readsBack (d : Decimal) (x : Float) : Bool := decide (d.toFloat = x.abs)

/-- Of the two numbers of `n` digits that enclose the magnitude of `x`, the nearest that reads
back. -/
def neighbour? (tie : Tie) (x : Float) (n : Nat) : Option Decimal :=
  let d := ofFloat x
  let dropped := (Nat.toDigits 10 d.coefficient).length - n
  let unit := Nat.pow 10 dropped
  let quotient := d.coefficient / unit
  let below : Decimal := ⟨quotient, d.exponent + dropped⟩
  let above : Decimal := ⟨quotient + 1, d.exponent + dropped⟩
  if tie.takesBelow quotient (d.coefficient % unit) unit then [below, above].find? (readsBack · x)
  else [above, below].find? (readsBack · x)

/-- The decimal number of fewest digits that reads back as the magnitude of the finite double `x`,
in normal form. -/
def shortest (tie : Tie) (x : Float) : Decimal :=
  (((List.range 17).findSome? fun i => neighbour? tie x (i + 1)).getD (ofFloat x)).normalize

end SurveyTables.Decimal
