import ApiStubs.Number.Double

/-!
# Shortest decimal text

A number is written with the fewest digits that read back as the same number and, among those, with
the nearest ones. Magnitudes from `1e-4` up to `1e16` are written positionally.
-/

namespace ApiStubs

namespace Double

/-- The number of decimal digits of a natural number. -/
def digitCount (n : Nat) : Nat :=
  (Nat.toDigits 10 n).length

/-- A finite magnitude `m * 2 ^ e` and the bounds of the reals that round to it, all over one
denominator. -/
structure Interval where
  low : Nat
  value : Nat
  high : Nat
  den : Nat
  closed : Bool

/-- The reals that round to `m * 2 ^ e`. Below a power of two the lower half gap is half as wide. -/
def interval (m : Nat) (e : Int) : Interval :=
  let narrow := m = twoTo 52 ∧ -1074 < e
  let low := if narrow then 4 * m - 1 else 4 * m - 2
  if 2 ≤ e then
    let f := twoTo (e - 2).toNat
    ⟨low * f, 4 * m * f, (4 * m + 2) * f, 1, m % 2 = 0⟩
  else ⟨low, 4 * m, 4 * m + 2, twoTo (2 - e).toNat, m % 2 = 0⟩

/-- Whether `d * 10 ^ p` rounds to the magnitude. -/
def Interval.holds (i : Interval) (d : Nat) (p : Int) : Bool :=
  let x := if 0 ≤ p then d * tenTo p.toNat * i.den else d * i.den
  let f := if 0 ≤ p then 1 else tenTo (-p).toNat
  if i.closed then i.low * f ≤ x ∧ x ≤ i.high * f else i.low * f < x ∧ x < i.high * f

/-- The power of ten of the leading digit of a positive fraction. -/
def leadingPower (num den : Nat) : Int :=
  let guess : Int := digitCount num - digitCount den
  let reached : Bool :=
    if 0 ≤ guess then den * tenTo guess.toNat ≤ num else den ≤ num * tenTo (-guess).toNat
  if reached then guess else guess - 1

/-- The neighbours of the magnitude among the numbers of `n` digits, tried nearer one first; the
result is a digit text as a number, and the power of its last digit. -/
def onGrid (i : Interval) (lead : Int) (n : Nat) : Option (Nat × Int) :=
  let p := lead - n + 1
  let num := if 0 ≤ p then i.value else i.value * tenTo (-p).toNat
  let den := if 0 ≤ p then i.den * tenTo p.toNat else i.den
  let d := num / den
  let near := roundDiv num den
  let far := if near = d then d + 1 else d
  if i.holds near p then some (near, p)
  else if i.holds far p then some (far, p)
  else none

/-- The first grid, from `n` digits on, that holds a number of the interval. -/
def searchGrid (i : Interval) (lead : Int) : Nat → Nat → Nat × Int
  | 0, _ => (0, 0)
  | fuel + 1, n => (onGrid i lead n).getD (searchGrid i lead fuel (n + 1))

/-- The fewest digits that read back as `m * 2 ^ e`, and the power of the last one. -/
def shortest (m : Nat) (e : Int) : Nat × Int :=
  let i := interval m e
  searchGrid i (leadingPower i.value i.den) 17 1

/-- Digits without the zeros at their end, and the power of the last one left. -/
def dropZeros : Nat → Nat → Int → Nat × Int
  | 0, d, p => (d, p)
  | fuel + 1, d, p => if d % 10 = 0 ∧ d ≠ 0 then dropZeros fuel (d / 10) (p + 1) else (d, p)

/-- Digits `d` with the last one at the power `p`, written out. -/
def positional (d : Nat) (p : Int) : List Char :=
  let digits := Nat.toDigits 10 d
  if 0 ≤ p then digits ++ List.replicate p.toNat '0' ++ ['.', '0']
  else
    let k := (-p).toNat
    let padded := List.replicate (k + 1 - digits.length) '0' ++ digits
    padded.take (padded.length - k) ++ '.' :: padded.drop (padded.length - k)

/-- Digits `d` with the last one at the power `p`, in the form with an exponent of two or more
digits. -/
def scientific (d : Nat) (p : Int) : List Char :=
  let digits := Nat.toDigits 10 d
  let x : Int := p + digits.length - 1
  let exponent := Nat.toDigits 10 x.natAbs
  let fraction := if digits.length = 1 then [] else '.' :: digits.drop 1
  digits.take 1 ++ fraction ++ 'e' :: (if x < 0 then '-' else '+') ::
    List.replicate (2 - exponent.length) '0' ++ exponent

/-- A magnitude as text. -/
def magnitudeText (m : Nat) (e : Int) : List Char :=
  if m = 0 then ['0', '.', '0']
  else
    let (d, p) := shortest m e
    let (d, p) := dropZeros 400 d p
    let x : Int := p + digitCount d - 1
    if -4 ≤ x ∧ x < 16 then positional d p else scientific d p

/-- A number as text. -/
def text : Double → String
  | .finite s m e => String.ofList (if s then '-' :: magnitudeText m e else magnitudeText m e)
  | .infinite s => if s then "-inf" else "inf"
  | .undefined => "nan"

end Double

end ApiStubs
