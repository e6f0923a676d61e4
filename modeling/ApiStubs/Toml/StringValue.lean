import ApiStubs.Text.Quoted
import ApiStubs.Text.Split

/-!
# String values

How a text is written as a value of a settings file, and how a value between quotation marks is read
back. Writing starts from the quoted form of the text; an escape that this form has and the file
format has not is spelled in another way.
-/

namespace ApiStubs

namespace Toml

/-- The pieces of a text between the occurrences of a backslash and a letter. -/
def splitAtEscape (letter : Char) : List Char → List (List Char)
  | [] => [[]]
  | [c] => [[c]]
  | c :: d :: cs =>
    if c = '\\' ∧ d = letter then [] :: splitAtEscape letter cs
    else
      match splitAtEscape letter (d :: cs) with
      | [] => [[c]]
      | w :: ws => (c :: w) :: ws

/-- Whether a piece is joined to the next one by a bare letter: so it is unless an odd number of
backslashes ends it, of which the first character of the piece is counted in no case. -/
def joinsPlainly (reversed : List Char) : Bool :=
  match reversed with
  | [] => true
  | c :: rest => go (c ≠ '\\') (c :: rest)
where
  go (plain : Bool) : List Char → Bool
    | c :: d :: rest => if c = '\\' then go (!plain) (d :: rest) else plain
    | _ => plain

/-- Joins the pieces around escapes of the quoted form again. There is no form for a text that
starts with such an escape and has no other one. -/
def rejoin? : Nat → List (List Char) → Option (List Char)
  | 0, _ => none
  | _ + 1, [] => none
  | _ + 1, [v] => some v
  | n + 1, first :: second :: rest =>
    match (if first.isEmpty then second :: rest else first :: second :: rest) with
    | v :: next :: more =>
      if v.isEmpty then none
      else
        let v := Text.replacePair '\\' '\\' '\\' v
        let joiner := if joinsPlainly v.reverse then ['x'] else ['u', '0', '0']
        rejoin? n ((v ++ joiner ++ next) :: more)
    | _ => none

/-- The quoted form of a text with the double quotation mark around it in mind. -/
def requoted (cs : List Char) : List Char :=
  if Text.quoteMark cs = '\'' then
    (Text.replacePair '\\' '\'' '\'' (Text.quotedBody cs)).flatMap
      fun c => if c = '"' then ['\\', '"'] else [c]
  else Text.quotedBody cs

/-- A text as a value. -/
def writeString? (s : String) : Option String :=
  let pieces := splitAtEscape 'x' (requoted s.toList)
  (rejoin? pieces.length pieces).map fun body => String.ofList ('"' :: body ++ ['"'])

/-- Whether an odd number of backslashes ends a text. -/
def endsInOddBackslash (cs : List Char) : Bool :=
  (cs.reverse.takeWhile (· = '\\')).length % 2 = 1

/-- Whether no text follows the quotation mark that closes a value; `pieces` are the parts between
quotation marks, and `triples` counts the empty ones among three in a row. -/
def closedWell (triple : Bool) : Bool → Nat → List (List Char) → Bool
  | _, _, [] => true
  | closed, triples, piece :: rest =>
    if piece.isEmpty then
      if triple then closedWell triple closed (triples + 1) rest
      else closedWell triple true triples rest
    else if endsInOddBackslash piece then closedWell triple closed triples rest
    else if closed then false
    else if !triple || 1 < triples then closedWell triple true triples rest
    else closedWell triple closed 0 rest

/-- The characters that escapes stand for. -/
def escapedChar? (c : Char) : Option Char :=
  match c with
  | '0' => some '\x00'
  | 'b' => some '\x08'
  | 'f' => some '\x0c'
  | 'n' => some '\n'
  | 'r' => some '\r'
  | 't' => some '\t'
  | '"' => some '"'
  | _ => none

/-- Whether only known escapes occur; `piece`s are the parts behind backslashes. -/
def escapesKnown : Bool → List (List Char) → Bool
  | _, [] => true
  | escaped, piece :: rest =>
    match piece with
    | [] => escapesKnown (!escaped) rest
    | c :: _ =>
      ((escapedChar? c).isSome || c == 'u' || c == 'U' || escaped) && escapesKnown false rest

/-- Whether hexadecimal digits may start a number of a character: none of a half of a pair does. -/
def startsCodePoint : List Char → Bool
  | [] => false
  | [a] => a.toLower != 'd'
  | a :: b :: _ => a.toLower != 'd' || ('0' ≤ b && b ≤ '7')

/-- The character that hexadecimal digits stand for. -/
def codePoint? (digits : List Char) : Option Char := do
  let n ← Text.hexNumber? digits
  if startsCodePoint digits ∧ n.isValidChar then some (Char.ofNat n) else none

/-- Puts characters in the place of their numbers; `pieces` are the parts behind each escape by
number, and `skip` says that the next one is none because its backslash is escaped. -/
def numbersRead? (letter : Char) (width : Nat) :
    Bool → List Char → List (List Char) → Option (List Char)
  | _, read, [] => some read
  | true, read, piece :: rest =>
    numbersRead? letter width (endsInOddBackslash piece) (read ++ '\\' :: letter :: piece) rest
  | false, read, piece :: rest => do
    let c ← codePoint? (piece.take width)
    numbersRead? letter width false (read ++ c :: piece.drop width) rest

/-- A text with the escapes by number of one kind read. -/
def readNumbers? (letter : Char) (width : Nat) (cs : List Char) : Option (List Char) :=
  match splitAtEscape letter cs with
  | [] => some cs
  | first :: pieces => numbersRead? letter width (endsInOddBackslash first) first pieces

/-- A text with the escapes by letter read. -/
def unescape? : List Char → Option (List Char)
  | '\\' :: c :: rest =>
    match escapedChar? c with
    | some x => (unescape? rest).map (x :: ·)
    | none =>
      if c = '\\' then (unescape? rest).map ('\\' :: ·)
      else if c = 'u' ∨ c = 'U' then (unescape? rest).map fun r => '\\' :: c :: r
      else none
  | c :: rest => (unescape? rest).map (c :: ·)
  | [] => some []

/-- A text without some characters at both ends. -/
def inside (n : Nat) (cs : List Char) : List Char :=
  (cs.drop n).take (cs.length - n - n)

/-- A value without its quotation marks, one or three on each side. -/
def unquoted (mark : Char) (cs : List Char) : List Char :=
  let tripled : Bool :=
    match cs with
    | _ :: b :: rest => b == mark && (rest.isEmpty || rest.head? == some b)
    | _ => false
  inside 1 (if tripled then inside 2 cs else cs)

/-- Reads a value that starts with a quotation mark. -/
def readString? (mark : Char) (value : List Char) : Option String := do
  let pieces := Text.splitOn mark (value.drop 1)
  let (triple, pieces) :=
    match pieces with
    | [] :: [] :: rest => (true, rest)
    | pieces => (false, pieces)
  if !closedWell triple false 0 pieces then none
  let value ←
    if mark = '"' then do
      if !escapesKnown false ((Text.splitOn '\\' value).drop 1) then none
      let value ← readNumbers? 'u' 4 value
      let value ← readNumbers? 'U' 8 value
      unescape? value
    else some value
  some (String.ofList (unquoted mark value))

end Toml

end ApiStubs
