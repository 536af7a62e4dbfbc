import SurveyTables.Decimal.Layout

/-!
# A fixed number of places

Shares and statistics are shown with a fixed number of places, a half going away from zero. Before
it is rounded, a double is stored as a decimal number with a coefficient below `2 ^ 96` and at most
twenty-eight places. A negative power of two is worked off in single steps.

* `half` : one step, exact while the coefficient has room and cut off afterwards;
* `dropPlace` : one place less, while there are too many;
* `store?` : the stored number; nothing if it is too large;
* `fixed` : the double rounded from its stored form. A double too large to store is a whole number
  and is written exactly. A value that the rounding takes to zero loses its sign, one that is
  stored as zero keeps it.
-/

namespace SurveyTables.Decimal

/-- The bound on the coefficient of a stored number. -/
def storeBound : Nat := Nat.pow 2 96

/-- The most places of a stored number. -/
def storePlaces : Nat := 28

/-- Half of a number: an odd coefficient takes one more place if it has room for it, and otherwise
loses its last bit. -/
def half (d : Decimal) : Decimal :=
  if d.coefficient % 2 = 1 ∧ d.coefficient * 5 < storeBound then
    ⟨d.coefficient * 5, d.exponent - 1⟩
  else ⟨d.coefficient / 2, d.exponent⟩

/-- A number with too many places loses one, a half going up. A single digit is lost without
rounding. -/
def dropPlace (d : Decimal) : Decimal :=
  if 0 ≤ d.exponent + storePlaces then d
  else if d.coefficient < 10 then ⟨0, 0⟩
  else ⟨(d.coefficient + 5) / 10, d.exponent + 1⟩

/-- The magnitude of a finite double as it is stored: a whole number if its power of two is not
negative, and otherwise halved once for each power. -/
def store? (x : Float) : Option Decimal :=
  let power := Binary64.power x
  let whole := Binary64.coefficient x * Nat.pow 2 power.toNat
  if whole < storeBound then
    let d := Nat.repeat half (-power).toNat ⟨whole, 0⟩
    some (Nat.repeat dropPlace (-d.exponent).toNat d)
  else none

def fixed (x : Float) (places : Nat) : List Char :=
  if x.isNaN then "NaN".toList
  else if !x.isFinite then signText x ++ "inf".toList
  else
    match store? x with
    | none => signText x ++ insertPoint ((ofFloat x).roundAt places) places
    | some d =>
      let units := d.roundAt places
      if units = 0 ∧ d.coefficient ≠ 0 then insertPoint units places
      else signText x ++ insertPoint units places

end SurveyTables.Decimal
