import SurveyTables.Decimal.Reader

/-!
# Doubles with the sign of a NaN

A number text may give a NaN a minus sign. `Float` has a single NaN, so the sign is kept beside it:
in the total order such a NaN comes first, and the other one last.

* `Datum` : a double, or the NaN with a minus sign; `Datum.toFloat` forgets the sign;
* `Datum.rank` : the total order; `rank_minusNaN_lt` puts the NaN with a minus sign before all
  doubles, and `Datum.rank_injective` says that the order tells any two apart;
* `Datum.read?` : the one that a number text denotes.
-/

namespace SurveyTables

/-- A double as a number text gives it. -/
inductive Datum where
  | double (x : Float)
  | minusNaN
  deriving DecidableEq

namespace Datum

def toFloat : Datum → Float
  | .double x => x
  | .minusNaN => 0.0 / 0.0

def rank : Datum → Int
  | .double x => Binary64.rank x
  | .minusNaN => -(Binary64.signWeight : Int) - 1

theorem rank_minusNaN_lt (x : Float) : minusNaN.rank < (double x).rank := by
  have hx := x.toBits.toNat_lt
  have hw : Binary64.signWeight = 0x8000000000000000 := rfl
  simp only [rank, Binary64.rank]
  split <;> omega

theorem rank_injective {a b : Datum} (h : a.rank = b.rank) : a = b := by
  cases a with
  | double x =>
    cases b with
    | double y => exact congrArg double (Binary64.rank_injective h)
    | minusNaN => exact absurd h.symm (Int.ne_of_lt (rank_minusNaN_lt x))
  | minusNaN =>
    cases b with
    | double y => exact absurd h (Int.ne_of_lt (rank_minusNaN_lt y))
    | minusNaN => rfl

def read? (s : List Char) : Option Datum :=
  (Decimal.readFloat? s).map fun x =>
    if x.isNaN && s.head? = some '-' then .minusNaN else .double x

end Datum

end SurveyTables
