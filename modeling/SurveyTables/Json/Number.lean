import SurveyTables.Decimal.Layout
import SurveyTables.Decimal.Reader
import SurveyTables.Json.Basic

/-!
# JSON numbers

* `realText` : how a double is written;
* `significand` : the digits of a number as a coefficient below `2 ^ 64` and an exponent. Digits are
  taken by `takeSignificand` as long as they fit;
* `scaledFloat` : the double that a coefficient and an exponent are read as. The coefficient is
  rounded first and the product with the power of ten after it, so that the result is next to the
  number but not always the nearest double;
* `readNumber?` : the number at the start of a text. A number too large for a double is well-formed
  but denotes no value.
-/

namespace SurveyTables.Json

/-! ## Writing -/

/-- The least place of the first digit, counted from the point, that is written without an
exponent. -/
def leastPlace : Int := -5

/-- The greatest number of digits before the point that is written without an exponent. -/
def greatestPlace : Int := 16

/-- A decimal number with an exponent: one digit before the point, and a sign on the exponent. -/
def exponentText (d : Decimal) : List Char :=
  let digits := Nat.toDigits 10 d.coefficient
  let power := d.exponent + digits.length - 1
  digits.take 1 ++ (if digits.length = 1 then [] else '.' :: digits.drop 1) ++ 'e' ::
    (if power < 0 then '-' else '+') :: Nat.toDigits 10 power.natAbs

/-- A double: its shortest digits, of two equally near numbers the even one, with a point and at
least one place, or with an exponent if it is very large or very small. A value that is not finite
has no number text. -/
def realText (x : Float) : List Char :=
  if !x.isFinite then "null".toList
  else
    let d := Decimal.shortest .toEven x
    let place := d.exponent + (Nat.toDigits 10 d.coefficient).length
    let size :=
      if d.coefficient = 0 ∨ (leastPlace < place ∧ place ≤ greatestPlace) then
        d.positional ++ (if 0 ≤ d.exponent then ['.', '0'] else [])
      else exponentText d
    Decimal.signText x ++ size

/-! ## The value of a number -/

/-- The number that digits denote after the number `n`, as long as it stays below `2 ^ 64`, and the
digits that are left. -/
def takeSignificand (n : Nat) : List Char → Nat × List Char
  | [] => (n, [])
  | c :: r =>
    let m := n * 10 + (c.toNat - '0'.toNat)
    if m < UInt64.size then takeSignificand m r else (n, c :: r)

/-- The digits before and after a point as a coefficient below `2 ^ 64`. Of the digits before the
point those that do not fit count as zeros, of those after it they are passed over. -/
def significand (whole places : List Char) : Decimal :=
  let w := takeSignificand 0 whole
  let p := takeSignificand w.1 places
  ⟨p.1, (w.2.length : Int) + p.2.length - places.length⟩

/-- The greatest exponent of a power of ten that is a double. -/
def greatestPower : Nat := 308

/-- The double nearest to a power of ten. -/
def powerOfTen (n : Nat) : Float := (⟨1, n⟩ : Decimal).toFloat

/-- A double times a power of ten. -/
def multiplyByPower (x : Float) (n : Nat) : Float :=
  if n ≤ greatestPower then x * powerOfTen n else if x == 0 then x else 1.0 / 0.0

/-- A double divided by a power of ten, in steps of the greatest power. -/
def divideByPower (x : Float) (n : Nat) : Float :=
  if n ≤ greatestPower then x / powerOfTen n
  else if x == 0 then x
  else divideByPower (x / powerOfTen greatestPower) (n - greatestPower)
termination_by n
decreasing_by
  have : greatestPower = 308 := rfl
  omega

def scaledFloat (d : Decimal) : Float :=
  let x := (⟨d.coefficient, 0⟩ : Decimal).toFloat
  if 0 ≤ d.exponent then multiplyByPower x d.exponent.toNat
  else divideByPower x (-d.exponent).toNat

/-- A double with a sign, which denotes no value if it overflows. -/
def realOf (negative : Bool) (d : Decimal) : Json :=
  let x := scaledFloat d
  if x.isFinite then .real (if negative then -x else x) else .unreadable

/-- A number written as an integer: kept as one within the 64-bit ranges, else a double. Minus zero
is a double, to keep its sign. -/
def integerOf (negative : Bool) (whole : List Char) : Json :=
  let n := Nat.ofDigitChars 10 whole 0
  if negative then
    if 0 < n ∧ n ≤ UInt64.size / 2 then .int (-(n : Int)) else realOf true (significand whole [])
  else if n < UInt64.size then .int n else realOf false (significand whole [])

/-- The number with the given parts; without places and exponent it is written as an integer. -/
def numberOf (negative : Bool) (whole : List Char) : Option (List Char) → Option Int → Json
  | none, none => integerOf negative whole
  | places, exponent =>
    let d := significand whole (places.getD [])
    realOf negative ⟨d.coefficient, d.exponent + exponent.getD 0⟩

/-! ## Reading -/

/-- The digits before the point: a zero alone, or digits of which the first is no zero. -/
def takeWhole? (s : List Char) : Option (List Char × List Char) :=
  let whole := s.takeWhile Char.isDigit
  if whole.isEmpty then none
  else if whole.head? = some '0' then some (['0'], s.tail)
  else some (whole, s.dropWhile Char.isDigit)

/-- The digits of a part that, if it is there, has at least one digit. -/
def takeDigits? (s : List Char) : Option (List Char × List Char) :=
  let digits := s.takeWhile Char.isDigit
  if digits.isEmpty then none else some (digits, s.dropWhile Char.isDigit)

/-- The places after the point, if there is a point. -/
def takePlaces? : List Char → Option (Option (List Char) × List Char)
  | '.' :: r => (takeDigits? r).map fun p => (some p.1, p.2)
  | r => some (none, r)

/-- The exponent, if there is one. -/
def takeExponent? : List Char → Option (Option Int × List Char)
  | [] => some (none, [])
  | c :: r =>
    if c = 'e' ∨ c = 'E' then
      match r with
      | '-' :: t => (takeDigits? t).map fun p => (some (-(Nat.ofDigitChars 10 p.1 0 : Int)), p.2)
      | '+' :: t => (takeDigits? t).map fun p => (some (Nat.ofDigitChars 10 p.1 0 : Int), p.2)
      | t => (takeDigits? t).map fun p => (some (Nat.ofDigitChars 10 p.1 0 : Int), p.2)
    else some (none, c :: r)

/-- The number without its sign at the start of a text, and what is left. -/
def readUnsigned? (negative : Bool) (s : List Char) : Option (Json × List Char) := do
  let whole ← takeWhole? s
  let places ← takePlaces? whole.2
  let exponent ← takeExponent? places.2
  return (numberOf negative whole.1 places.1 exponent.1, exponent.2)

def readNumber? : List Char → Option (Json × List Char)
  | '-' :: r => readUnsigned? true r
  | r => readUnsigned? false r

theorem length_lt_of_takeWhole? {s : List Char} {p : List Char × List Char}
    (h : takeWhole? s = some p) : p.2.length < s.length := by
  cases s with
  | nil => simp [takeWhole?] at h
  | cons c r =>
    simp only [takeWhole?] at h
    split at h
    · simp at h
    · rename_i hne
      split at h
      · obtain rfl := Option.some.inj h
        simp
      · obtain rfl := Option.some.inj h
        by_cases hc : c.isDigit
        · have := (List.dropWhile_suffix Char.isDigit (l := r)).length_le
          simp only [List.dropWhile_cons, hc, if_true, List.length_cons]
          omega
        · simp [hc] at hne

theorem length_le_of_takeDigits? {s : List Char} {p : List Char × List Char}
    (h : takeDigits? s = some p) : p.2.length ≤ s.length := by
  simp only [takeDigits?] at h
  split at h
  · simp at h
  · obtain rfl := Option.some.inj h
    exact (List.dropWhile_suffix _).length_le

theorem length_le_of_takePlaces? {s : List Char} {p : Option (List Char) × List Char}
    (h : takePlaces? s = some p) : p.2.length ≤ s.length := by
  unfold takePlaces? at h
  split at h
  · obtain ⟨q, hq, rfl⟩ := Option.map_eq_some_iff.1 h
    have := length_le_of_takeDigits? hq
    simp only [List.length_cons]
    omega
  · obtain rfl := Option.some.inj h
    exact Nat.le_refl _

theorem length_le_of_takeExponent? {s : List Char} {p : Option Int × List Char}
    (h : takeExponent? s = some p) : p.2.length ≤ s.length := by
  unfold takeExponent? at h
  split at h
  · obtain rfl := Option.some.inj h
    exact Nat.le_refl _
  · split at h
    · split at h <;>
      · obtain ⟨q, hq, rfl⟩ := Option.map_eq_some_iff.1 h
        have := length_le_of_takeDigits? hq
        simp only [List.length_cons]
        omega
    · obtain rfl := Option.some.inj h
      exact Nat.le_refl _

theorem length_lt_of_readUnsigned? {b : Bool} {s : List Char} {p : Json × List Char}
    (h : readUnsigned? b s = some p) : p.2.length < s.length := by
  simp only [readUnsigned?, Option.bind_eq_bind, Option.pure_def, Option.bind_eq_some_iff,
    Option.some.injEq] at h
  obtain ⟨w, hw, q, hq, e, he, rfl⟩ := h
  have h1 := length_lt_of_takeWhole? hw
  have h2 := length_le_of_takePlaces? hq
  have h3 := length_le_of_takeExponent? he
  simp only
  omega

theorem length_lt_of_readNumber? {s : List Char} {p : Json × List Char}
    (h : readNumber? s = some p) : p.2.length < s.length := by
  unfold readNumber? at h
  split at h
  · have := length_lt_of_readUnsigned? h
    simp only [List.length_cons]
    omega
  · exact length_lt_of_readUnsigned? h

end SurveyTables.Json
