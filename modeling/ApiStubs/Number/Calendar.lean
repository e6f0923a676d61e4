import ApiStubs.Number.Numeral
import ApiStubs.Value

/-!
# Calendar dates

Dates written as a year, a month and a day, of which only those that exist are read.
-/

namespace ApiStubs

namespace Number

/-- The number of days of a month. -/
def daysIn (year month : Nat) : Nat :=
  if month = 2 then
    if year % 4 = 0 ∧ (year % 100 ≠ 0 ∨ year % 400 = 0) then 29 else 28
  else if month = 4 ∨ month = 6 ∨ month = 9 ∨ month = 11 then 30
  else 31

/-- A date of four, two and two digits. -/
def date? (cs : List Char) : Option Scalar :=
  match cs with
  | [a, b, c, d, '-', e, f, '-', g, h] =>
    if [a, b, c, d, e, f, g, h].all Char.isDigit then
      let year := digitsIn 10 [a, b, c, d]
      let month := digitsIn 10 [e, f]
      let day := digitsIn 10 [g, h]
      if 1 ≤ year ∧ 1 ≤ month ∧ month ≤ 12 ∧ 1 ≤ day ∧ day ≤ daysIn year month then
        some (.date year month day)
      else none
    else none
  | _ => none

end Number

end ApiStubs
