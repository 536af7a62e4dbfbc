/-!
# The parts of a double

A finite double is `± coefficient · 2 ^ power` with natural `coefficient`; the parts are read off
the bit pattern.

* `isNegative`, `exponentField`, `fractionField` : the three fields;
* `coefficient`, `power` : the magnitude of a finite double;
* `rank` : the total order of all doubles, `-∞ < … < -0 < 0 < … < ∞ < NaN`; `rank_injective` says
  that it tells any two doubles apart.
-/

namespace SurveyTables.Binary64

/-- The weight of the sign bit, the sixty-fourth. -/
def signWeight : Nat := 0x8000000000000000

/-- The weight of the lowest exponent bit, the fifty-third. -/
def exponentWeight : Nat := 0x10000000000000

def isNegative (x : Float) : Bool := decide (signWeight ≤ x.toBits.toNat)

def exponentField (x : Float) : Nat := x.toBits.toNat / exponentWeight % 0x800

def fractionField (x : Float) : Nat := x.toBits.toNat % exponentWeight

def coefficient (x : Float) : Nat :=
  if exponentField x = 0 then fractionField x else exponentWeight + fractionField x

def power (x : Float) : Int :=
  if exponentField x = 0 then -1074 else (exponentField x : Int) - 1075

/-- The place of a double in the total order: nonnegative doubles by their bits, and the negative
ones below them in reverse. -/
def rank (x : Float) : Int :=
  if isNegative x then (signWeight : Int) - 1 - x.toBits.toNat else x.toBits.toNat

theorem toBits_injective {x y : Float} (h : x.toBits = y.toBits) : x = y := by
  cases x with | ofModel a =>
  cases y with | ofModel b =>
  cases a with | mk p hp =>
  cases b with | mk q hq =>
  have hpq : p = q := h
  subst hpq
  rfl

theorem rank_injective {x y : Float} (h : rank x = rank y) : x = y := by
  have hx := x.toBits.toNat_lt
  have hy := y.toBits.toNat_lt
  apply toBits_injective
  apply UInt64.toNat_inj.1
  have hw : signWeight = 0x8000000000000000 := rfl
  simp only [rank, isNegative, decide_eq_true_eq] at h
  split at h <;> split at h <;> omega

end SurveyTables.Binary64
