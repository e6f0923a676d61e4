/-!
# Double precision numbers

Binary floating-point numbers with a significand of 53 bits, kept as exact data, and the rounding of
a decimal number to the nearest of them. A tie goes to the even significand.
-/

namespace ApiStubs

/-- A double precision number; `finite s m e` has the magnitude `m * 2 ^ e` and is negative when `s`
holds. -/
inductive Double
  | finite (negative : Bool) (significand : Nat) (exponent : Int)
  | infinite (negative : Bool)
  | undefined
deriving DecidableEq, Repr, Inhabited

namespace Double

/-- A power of two. -/
def twoTo (k : Nat) : Nat :=
  Nat.pow 2 k

/-- A power of ten. -/
def tenTo (k : Nat) : Nat :=
  Nat.pow 10 k

/-- The fraction `num / (den * 2 ^ e)` as a pair of natural numbers. -/
def scaled (num den : Nat) (e : Int) : Nat × Nat :=
  if 0 ≤ e then (num, den * twoTo e.toNat) else (num * twoTo (-e).toNat, den)

/-- A quotient rounded to the nearest natural number, a half to the even neighbour. -/
def roundDiv (num den : Nat) : Nat :=
  let q := num / den
  let r := num % den
  if 2 * r < den then q
  else if den < 2 * r then q + 1
  else if q % 2 = 0 then q
  else q + 1

/-- The exponent at which a positive fraction has a significand of 53 bits, or the least one. -/
def exponentFor (num den : Nat) : Int :=
  let e : Int := Nat.log2 num - Nat.log2 den - 53
  let (n, d) := scaled num den e
  max (if n / d < twoTo 53 then e else e + 1) (-1074)

/-- The number nearest to a fraction. -/
def ofFraction (negative : Bool) (num den : Nat) : Double :=
  if num = 0 then .finite negative 0 (-1074)
  else
    let e := exponentFor num den
    let (n, d) := scaled num den e
    let m := roundDiv n d
    let (m, e) := if m = twoTo 53 then (twoTo 52, e + 1) else (m, e)
    if 971 < e then .infinite negative else .finite negative m e

/-- The number nearest to `digits * 10 ^ power`. Magnitudes far outside the range are not computed. -/
def ofDecimal (negative : Bool) (digits : Nat) (power : Int) : Double :=
  let size : Int := Nat.log2 digits / 3
  if digits = 0 then .finite negative 0 (-1074)
  else if 400 < power then .infinite negative
  else if power + size < -800 then .finite negative 0 (-1074)
  else if 0 ≤ power then ofFraction negative (digits * tenTo power.toNat) 1
  else ofFraction negative digits (tenTo (-power).toNat)

/-- Whether a number equals zero. -/
def isZero : Double → Bool
  | .finite _ m _ => m = 0
  | _ => false

/-- The integer that a number equals, if there is one. -/
def toInt? : Double → Option Int
  | .finite s m e =>
    if 0 ≤ e then
      let n : Int := m * twoTo e.toNat
      some (if s then -n else n)
    else
      let d := twoTo (-e).toNat
      if m % d = 0 then
        let n : Int := m / d
        some (if s then -n else n)
      else none
  | _ => none

/-- Equality of values: the two zeros are equal, and the undefined number equals nothing. -/
def same : Double → Double → Bool
  | .undefined, _ | _, .undefined => false
  | x, y => x == y || (x.isZero && y.isZero)

end Double

end ApiStubs
