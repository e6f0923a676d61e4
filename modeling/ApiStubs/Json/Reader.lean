import ApiStubs.Text.Hex
import ApiStubs.Value

/-!
# Reading JSON

Texts in the JSON format, with the three numbers that the format itself does not have. Objects keep
the order of their fields, and a repeated key keeps its place and takes the later value.
-/

namespace ApiStubs

namespace Json

/-- A text without the blanks at its start. -/
def skipBlanks (cs : List Char) : List Char :=
  cs.dropWhile fun c => c == ' ' || c == '\t' || c == '\n' || c == '\r'

/-- The value of a run of decimal digits. -/
def natural (cs : List Char) : Nat :=
  cs.foldl (fun n c => n * 10 + (c.toNat - 48)) 0

/-- The fraction of a number, if one follows: its digits and the rest. -/
def fraction? : List Char → Option (List Char × List Char)
  | '.' :: cs =>
    let digits := cs.takeWhile Char.isDigit
    if digits.isEmpty then none else some (digits, cs.dropWhile Char.isDigit)
  | _ => none

/-- The exponent of a number, if one follows: its value and the rest. -/
def exponent? : List Char → Option (Int × List Char)
  | c :: cs =>
    if c = 'e' ∨ c = 'E' then
      let (negative, cs) :=
        match cs with
        | '-' :: cs => (true, cs)
        | '+' :: cs => (false, cs)
        | cs => (false, cs)
      let digits := cs.takeWhile Char.isDigit
      if digits.isEmpty then none
      else
        let n : Int := natural digits
        some (if negative then -n else n, cs.dropWhile Char.isDigit)
    else none
  | [] => none

/-- The digits before the point: a zero, or digits that do not start with one. -/
def wholePart? (cs : List Char) : Option (List Char × List Char) :=
  match cs with
  | '0' :: rest => some (['0'], rest)
  | _ =>
    let digits := cs.takeWhile Char.isDigit
    if digits.isEmpty then none else some (digits, cs.dropWhile Char.isDigit)

/-- A number. It is an integer unless it has a fraction or an exponent. -/
def number? (negative : Bool) (cs : List Char) : Option (Value × List Char) := do
  let (whole, rest) ← wholePart? cs
  match fraction? rest, exponent? rest with
  | none, none =>
    let n : Int := natural whole
    some (.scalar (.int (if negative then -n else n)), rest)
  | some (digits, rest), _ =>
    let (power, rest) := (exponent? rest).getD (0, rest)
    some (.scalar (.real (.ofDecimal negative (natural (whole ++ digits))
      (power - digits.length))), rest)
  | none, some (power, rest) =>
    some (.scalar (.real (.ofDecimal negative (natural whole) power)), rest)

/-- The code unit in four hexadecimal digits. -/
def unit? : List Char → Option (Nat × List Char)
  | a :: b :: c :: d :: rest => (Text.hexNumber? [a, b, c, d]).map (·, rest)
  | _ => none

/-- The character of an escape by number. Two units of a pair are one character. -/
def escaped? (cs : List Char) : Option (Char × List Char) := do
  let (u, rest) ← unit? cs
  if 0xD800 ≤ u ∧ u < 0xDC00 then
    match rest with
    | '\\' :: 'u' :: more =>
      match unit? more with
      | some (v, after) =>
        if 0xDC00 ≤ v ∧ v < 0xE000 then
          some (Char.ofNat (0x10000 + (u - 0xD800) * 0x400 + (v - 0xDC00)), after)
        else some ('\uFFFD', rest)
      | none => some ('\uFFFD', rest)
    | _ => some ('\uFFFD', rest)
  else if 0xDC00 ≤ u ∧ u < 0xE000 then some ('\uFFFD', rest)
  else some (Char.ofNat u, rest)

/-- The character of an escape by letter. -/
def letter? (c : Char) : Option Char :=
  if c = '"' ∨ c = '\\' ∨ c = '/' then some c
  else if c = 'b' then some '\x08'
  else if c = 'f' then some '\x0c'
  else if c = 'n' then some '\n'
  else if c = 'r' then some '\r'
  else if c = 't' then some '\t'
  else none

/-- A string after its opening quotation mark; `read` holds its characters, last one first. -/
def string? : Nat → List Char → List Char → Option (String × List Char)
  | 0, _, _ => none
  | _ + 1, _, [] => none
  | _ + 1, read, '"' :: rest => some (String.ofList read.reverse, rest)
  | fuel + 1, read, '\\' :: 'u' :: rest =>
    match escaped? rest with
    | some (c, rest) => string? fuel (c :: read) rest
    | none => none
  | fuel + 1, read, '\\' :: c :: rest =>
    match letter? c with
    | some c => string? fuel (c :: read) rest
    | none => none
  | fuel + 1, read, c :: rest =>
    if c.toNat < 0x20 ∨ c = '\\' then none else string? fuel (c :: read) rest

mutual

/-- A value at the start of a text, and the rest. -/
def value? : Nat → List Char → Option (Value × List Char)
  | 0, _ => none
  | fuel + 1, cs =>
    match cs with
    | '"' :: rest => (string? fuel [] rest).map fun p => (.text p.1, p.2)
    | '[' :: rest =>
      match skipBlanks rest with
      | ']' :: rest => some (.array [], rest)
      | rest => (items? fuel [] rest).map fun p => (.array p.1, p.2)
    | '\x7b' :: rest =>
      match skipBlanks rest with
      | '\x7d' :: rest => some (.object [], rest)
      | rest => (fields? fuel [] rest).map fun p => (.object (Fields.ofList p.1), p.2)
    | 'n' :: 'u' :: 'l' :: 'l' :: rest => some (.null, rest)
    | 't' :: 'r' :: 'u' :: 'e' :: rest => some (.scalar (.bool true), rest)
    | 'f' :: 'a' :: 'l' :: 's' :: 'e' :: rest => some (.scalar (.bool false), rest)
    | 'N' :: 'a' :: 'N' :: rest => some (.scalar (.real .undefined), rest)
    | 'I' :: 'n' :: 'f' :: 'i' :: 'n' :: 'i' :: 't' :: 'y' :: rest =>
      some (.scalar (.real (.infinite false)), rest)
    | '-' :: 'I' :: 'n' :: 'f' :: 'i' :: 'n' :: 'i' :: 't' :: 'y' :: rest =>
      some (.scalar (.real (.infinite true)), rest)
    | '-' :: rest => number? true rest
    | _ => number? false cs

/-- The items of an array from one on; `read` holds those before it, last one first. -/
def items? : Nat → List Value → List Char → Option (List Value × List Char)
  | 0, _, _ => none
  | fuel + 1, read, cs =>
    match value? fuel (skipBlanks cs) with
    | none => none
    | some (v, rest) =>
      match skipBlanks rest with
      | ',' :: rest => items? fuel (v :: read) rest
      | ']' :: rest => some ((v :: read).reverse, rest)
      | _ => none

/-- The fields of an object from one on; `read` holds those before it, last one first. -/
def fields? : Nat → List (Scalar × Value) → List Char → Option (List (Scalar × Value) × List Char)
  | 0, _, _ => none
  | fuel + 1, read, cs =>
    match skipBlanks cs with
    | '"' :: rest =>
      match string? fuel [] rest with
      | none => none
      | some (key, rest) =>
        match skipBlanks rest with
        | ':' :: rest =>
          match value? fuel (skipBlanks rest) with
          | none => none
          | some (v, rest) =>
            match skipBlanks rest with
            | ',' :: rest => fields? fuel ((.text key, v) :: read) rest
            | '\x7d' :: rest => some (((.text key, v) :: read).reverse, rest)
            | _ => none
        | _ => none
    | _ => none

end

/-- The value that a whole text stands for. -/
def read? (s : String) : Option Value :=
  let cs := s.toList
  match value? (cs.length + 1) (skipBlanks cs) with
  | some (v, rest) => if (skipBlanks rest).isEmpty then some v else none
  | none => none

end Json

end ApiStubs
