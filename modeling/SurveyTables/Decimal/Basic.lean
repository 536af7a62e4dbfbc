import SurveyTables.Decimal.Binary64

/-!
# Decimal numbers

A `Decimal` is `coefficient · 10 ^ exponent`.

* `normalize` : the same number without trailing zeros in the coefficient;
* `ofFloat` : the exact magnitude of a finite double;
* `toFloat` : the double nearest to a decimal number;
* `roundAt` : the number in units of `10 ^ -places`, rounded with a half going up.
-/

namespace SurveyTables

/-- The number `coefficient · 10 ^ exponent`. -/
structure Decimal where
  coefficient : Nat
  exponent : Int
  deriving DecidableEq, Repr

namespace Decimal

def normalize (d : Decimal) : Decimal :=
  if d.coefficient = 0 then ⟨0, 0⟩
  else if d.coefficient % 10 = 0 then normalize ⟨d.coefficient / 10, d.exponent + 1⟩
  else d
termination_by d.coefficient
decreasing_by omega

/-- The magnitude of a finite double, exactly: a negative power of two is a power of five over a
power of ten. -/
def ofFloat (x : Float) : Decimal :=
  let power := Binary64.power x
  ⟨Binary64.coefficient x * Nat.pow 2 power.toNat * Nat.pow 5 (-power).toNat, min 0 power⟩

/-- The double nearest to the number; of two equally near ones the one with the even coefficient,
and infinity from the point where the largest double would have to be rounded away. -/
def toFloat (d : Decimal) : Float :=
  let n := d.normalize
  Float.ofScientific n.coefficient (decide (n.exponent < 0)) n.exponent.natAbs

/-- The quotient rounded to the nearest natural number, a half upwards. -/
def roundHalfUp (n m : Nat) : Nat := (2 * n + m) / (2 * m)

def roundAt (d : Decimal) (places : Nat) : Nat :=
  let shift := d.exponent + places
  roundHalfUp (d.coefficient * Nat.pow 10 shift.toNat) (Nat.pow 10 (-shift).toNat)

end Decimal

end SurveyTables
