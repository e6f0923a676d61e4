import ApiStubs.Number.Calendar
import ApiStubs.Text.Split

/-!
# Plain values

Values without quotation marks: truth values, integers in four notations, numbers with a fraction or
an exponent, and dates. A number may hold single underscores between its digits, and no zero in front
of other digits.
-/

namespace ApiStubs

open Number

namespace Toml

/-- A number without its sign. -/
def unsigned (cs : List Char) : Bool × List Char :=
  match cs with
  | '-' :: rest => (true, rest)
  | '+' :: rest => (false, rest)
  | _ => (false, cs)

/-- Whether a zero stands in front of something that no notation allows behind it. -/
def hasIdleZero (cs : List Char) : Bool :=
  match cs with
  | '0' :: c :: _ => c != '.' && c != 'o' && c != 'b' && c != 'x'
  | '-' :: '0' :: c :: _ | '+' :: '0' :: c :: _ => c != '.'
  | _ => false

/-- Whether every underscore stands between two digits. -/
def underscoresSound (cs : List Char) : Bool :=
  cs.head? != some '_' && cs.getLast? != some '_' && !Text.contains ['_', '.'] cs &&
    !Text.contains ['.', '_'] cs && !Text.contains ['_', '_'] cs

/-- An integer without a sign and underscores. -/
def magnitude? (cs : List Char) : Option Nat :=
  match cs with
  | '0' :: 'x' :: digits => hexadecimal? digits
  | '0' :: 'o' :: digits => inBase? 8 digits
  | '0' :: 'b' :: digits => inBase? 2 digits
  | digits => inBase? 10 digits
where
  hexadecimal? (digits : List Char) : Option Nat :=
    if digits.isEmpty then none else Text.hexNumber? digits
  inBase? (base : Nat) (digits : List Char) : Option Nat :=
    if !digits.isEmpty && digits.all fun c => c.isDigit && c.toNat - 48 < base then
      some (digitsIn base digits)
    else none

/-- The power of ten that an exponent stands for; nothing at all stands for zero. -/
def exponent? (cs : List Char) : Option Int :=
  match cs with
  | [] => some 0
  | c :: rest =>
    let (negative, digits) := unsigned rest
    if (c == 'e' || c == 'E') && !digits.isEmpty && digits.all Char.isDigit then
      let n : Int := digitsIn 10 digits
      some (if negative then -n else n)
    else none

/-- A number with a fraction or an exponent, without a sign and underscores. -/
def real? (negative : Bool) (cs : List Char) : Option Double :=
  let whole := cs.takeWhile Char.isDigit
  let rest := cs.dropWhile Char.isDigit
  if whole.isEmpty then none
  else
    match rest with
    | '.' :: rest =>
      if rest.isEmpty then none
      else (exponent? (rest.dropWhile Char.isDigit)).map
        (decimal negative whole (rest.takeWhile Char.isDigit))
    | rest => if rest.isEmpty then none else (exponent? rest).map (decimal negative whole [])

/-- A number. There is no negative zero. -/
def number? (cs : List Char) : Option Scalar :=
  if hasIdleZero cs || !underscoresSound cs then none
  else
    let (negative, body) := unsigned cs
    let body := body.filter (· ≠ '_')
    match body.map Char.toLower with
    | ['i', 'n', 'f'] => some (.real (.infinite negative))
    | ['n', 'a', 'n'] => some (.real .undefined)
    | _ =>
      match magnitude? body, real? false body, real? negative body with
      | some n, _, _ => some (.int (if negative then -n else n))
      | none, some zero, some x => some (.real (if zero.isZero then zero else x))
      | _, _, _ => none

/-- The number that two digits stand for. -/
def twoDigits? : List Char → Option Nat
  | [a, b] => if a.isDigit && b.isDigit then some (digitsIn 10 [a, b]) else none
  | _ => none

/-- Whether a text starts with a time of day. -/
def isTime (cs : List Char) : Bool :=
  match cs with
  | a :: b :: ':' :: c :: d :: ':' :: e :: f :: _ =>
    match twoDigits? [a, b], twoDigits? [c, d], twoDigits? [e, f] with
    | some h, some m, some s => h < 24 && m < 60 && s < 60
    | _, _, _ => false
  | _ => false

/-- Whether a text starts with a date and a time of day. -/
def isMoment (cs : List Char) : Bool :=
  (date? (cs.take 10)).isSome && isTime (cs.drop 11)

end Toml

end ApiStubs
