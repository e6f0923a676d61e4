import ApiStubs.Number.Calendar
import ApiStubs.Number.Numeral
import ApiStubs.Text.Split

/-!
# Plain scalars

What a plain scalar stands for is seen from its form: nothing, a truth value, an integer in one of
five notations, a number with a point, a date, or else the text itself.
-/

namespace ApiStubs

open Number

namespace Yaml

/-- What a plain scalar stands for. Two forms have a meaning as a key only. -/
inductive Meaning
  | value (s : Scalar)
  | merge
  | default
deriving Repr, Inhabited

/-- A text without its sign. -/
def unsigned (cs : List Char) : Bool × List Char :=
  match cs with
  | '-' :: rest => (true, rest)
  | '+' :: rest => (false, rest)
  | _ => (false, cs)

def isDigitOrLine (c : Char) : Bool :=
  c.isDigit || c == '_'

/-- Digits that start with one and go on with digits and underscores. -/
def isNumeral (cs : List Char) : Bool :=
  match cs with
  | c :: rest => c.isDigit && rest.all isDigitOrLine
  | [] => false

/-- A part of a number to the base sixty: one digit, or two below sixty. -/
def isSixtieth (cs : List Char) : Bool :=
  match cs with
  | [a] => a.isDigit
  | [a, b] => '0' ≤ a && a ≤ '5' && b.isDigit
  | _ => false

/-- The value of parts to the base sixty. -/
def sixties (parts : List (List Char)) : Nat :=
  parts.foldl (fun n part => n * 60 + digitsIn 10 part) 0

/-- A number without a point or a sign. -/
def magnitude? (cs : List Char) : Option Nat :=
  match cs with
  | ['0'] => some 0
  | '0' :: 'b' :: rest =>
    if !rest.isEmpty && rest.all (fun c => c == '0' || c == '1' || c == '_') then
      some (digitsIn 2 rest)
    else none
  | '0' :: 'x' :: rest =>
    if !rest.isEmpty && rest.all (fun c => (Text.hexValue? c).isSome || c == '_') then
      some (digitsIn 16 rest)
    else none
  | '0' :: rest =>
    if rest.all fun c => ('0' ≤ c && c ≤ '7') || c == '_' then some (digitsIn 8 rest) else none
  | _ =>
    match Text.splitOn ':' cs with
    | [whole] => if isNumeral whole then some (digitsIn 10 whole) else none
    | whole :: parts =>
      if isNumeral whole && parts.all isSixtieth then some (sixties (whole :: parts)) else none
    | [] => none

def integer? (cs : List Char) : Option Int :=
  let (negative, cs) := unsigned cs
  (magnitude? cs).map fun n => if negative then -(n : Int) else n

/-- An exponent with its sign; nothing at all is an exponent of zero. -/
def exponent? (cs : List Char) : Option Int :=
  match cs with
  | [] => some 0
  | e :: sign :: digits =>
    if (e == 'e' || e == 'E') && (sign == '-' || sign == '+') && !digits.isEmpty &&
        digits.all Char.isDigit then
      let n : Int := digitsIn 10 digits
      some (if sign = '-' then -n else n)
    else none
  | _ => none

/-- A number with a point, or one of the words for infinity and the undefined number. -/
def real? (cs : List Char) : Option Double :=
  let (negative, body) := unsigned cs
  let whole := body.takeWhile fun c => isDigitOrLine c || c == ':'
  match body.drop whole.length with
  | '.' :: rest =>
    let fraction := rest.takeWhile isDigitOrLine
    let exponent := exponent? (rest.drop fraction.length)
    if rest = "inf".toList ∨ rest = "Inf".toList ∨ rest = "INF".toList then
      if whole.isEmpty then some (.infinite negative) else none
    else if rest = "nan".toList ∨ rest = "NaN".toList ∨ rest = "NAN".toList then
      if whole.isEmpty ∧ cs = body then some .undefined else none
    else
      match Text.splitOn ':' whole with
      | [[]] => if cs = body ∧ isNumeral fraction then exponent.map (decimal false [] fraction)
          else none
      | [whole] => if isNumeral whole then exponent.map (decimal negative whole fraction) else none
      | first :: parts =>
        if isNumeral first && parts.all isSixtieth && rest.length == fraction.length then
          some (decimal negative (Nat.toDigits 10 (sixties (first :: parts))) fraction 0)
        else none
      | [] => none
  | _ => none

def truths : List String :=
  ["yes", "Yes", "YES", "true", "True", "TRUE", "on", "On", "ON"]

def falsehoods : List String :=
  ["no", "No", "NO", "false", "False", "FALSE", "off", "Off", "OFF"]

def nulls : List String :=
  ["", "~", "null", "Null", "NULL"]

/-- What a plain scalar stands for. -/
def meaning (s : String) : Meaning :=
  let cs := s.toList
  if nulls.contains s then .value .null
  else if truths.contains s then .value (.bool true)
  else if falsehoods.contains s then .value (.bool false)
  else if s = "<<" then .merge
  else if s = "=" then .default
  else
    match integer? cs, real? cs, date? cs with
    | some n, _, _ => .value (.int n)
    | none, some x, _ => .value (.real x)
    | none, none, some d => .value d
    | none, none, none => .value (.text s)

end Yaml

end ApiStubs
