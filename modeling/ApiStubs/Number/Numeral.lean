import ApiStubs.Number.Double
import ApiStubs.Text.Hex

/-!
# Numerals

The values of written numbers: digits to a base, and decimal numbers with a fraction and an exponent.
-/

namespace ApiStubs

namespace Number

/-- The value of digits to a base below sixteen, with underscores left out. -/
def digitsIn (base : Nat) (cs : List Char) : Nat :=
  cs.foldl (fun n c => if c = '_' then n else n * base + (Text.hexValue? c).getD 0) 0

/-- A number of a whole part, a fraction and an exponent. -/
def decimal (negative : Bool) (whole fraction : List Char) (power : Int) : Double :=
  let fraction := fraction.filter Char.isDigit
  .ofDecimal negative (digitsIn 10 (whole ++ fraction)) (power - fraction.length)

end Number

end ApiStubs
