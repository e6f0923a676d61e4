/-!
# Cursors

A place in a text: what is left to read, with the line and the column that has been reached. The
classes of characters that matter for the layout of a document are given with it.
-/

namespace ApiStubs

namespace Yaml

/-- What is left of a text, and where it starts. -/
structure Cursor where
  rest : List Char
  index : Nat := 0
  line : Nat := 0
  column : Nat := 0
deriving Repr, Inhabited

/-- A character that ends a line. -/
def isBreak (c : Char) : Bool :=
  c == '\n' || c == '\r' || c == '\u0085' || c == '\u2028' || c == '\u2029'

/-- A line break or the end of the text, which a zero stands for. -/
def isBreakOrEnd (c : Char) : Bool :=
  isBreak c || c == '\x00'

/-- A space, a line break or the end. -/
def isSpaceOrEnd (c : Char) : Bool :=
  isBreakOrEnd c || c == ' '

/-- A space, a tab, a line break or the end. -/
def isBlankOrEnd (c : Char) : Bool :=
  isSpaceOrEnd c || c == '\t'

/-- A letter, a digit, a hyphen or an underscore. -/
def isNameChar (c : Char) : Bool :=
  c.isAlphanum || c == '-' || c == '_'

/-- A character that a document may hold. -/
def isAllowed (c : Char) : Bool :=
  let n := c.toNat
  n == 0x9 || n == 0xA || n == 0xD || (0x20 ≤ n && n ≤ 0x7E) || n == 0x85 ||
    (0xA0 ≤ n && n ≤ 0xD7FF) || (0xE000 ≤ n && n ≤ 0xFFFD) || 0x10000 ≤ n

namespace Cursor

/-- The character some places ahead, a zero behind the end. -/
def peekAt (c : Cursor) (k : Nat) : Char :=
  c.rest[k]?.getD '\x00'

def peek (c : Cursor) : Char :=
  c.peekAt 0

def atEnd (c : Cursor) : Bool :=
  c.rest.isEmpty

/-- The cursor behind one character. A carriage return before a line feed does not end the line
yet. -/
def advance (c : Cursor) : Cursor :=
  match c.rest with
  | [] => c
  | x :: rest =>
    if isBreak x && !(x == '\r' && rest.head? == some '\n') then
      { rest, index := c.index + 1, line := c.line + 1, column := 0 }
    else
      { rest, index := c.index + 1, line := c.line,
        column := if x == '\uFEFF' then c.column else c.column + 1 }

def advanceBy : Nat → Cursor → Cursor
  | 0, c => c
  | n + 1, c => advanceBy n c.advance

/-- The cursor behind the characters of a class. -/
def skipWhile (p : Char → Bool) (c : Cursor) : Cursor :=
  c.advanceBy (c.rest.takeWhile p).length

/-- The line break at a cursor, in the form in which it is kept, and the cursor behind it. -/
def lineBreak? (c : Cursor) : Option (Char × Cursor) :=
  match c.rest with
  | '\r' :: '\n' :: _ => some ('\n', c.advance.advance)
  | x :: _ =>
    if x == '\r' || x == '\n' || x == '\u0085' then some ('\n', c.advance)
    else if x == '\u2028' || x == '\u2029' then some (x, c.advance)
    else none
  | [] => none

/-- Whether the mark of a document, three equal characters, stands here. -/
def atMark (mark : Char) (c : Cursor) : Bool :=
  c.peekAt 0 == mark && c.peekAt 1 == mark && c.peekAt 2 == mark && isBlankOrEnd (c.peekAt 3)

/-- Whether a document starts or ends here. -/
def atDocumentMark (c : Cursor) : Bool :=
  c.atMark '-' || c.atMark '.'

/-- The cursor behind a comment. -/
def skipComment (c : Cursor) : Cursor :=
  if c.peek == '#' then c.skipWhile (!isBreakOrEnd ·) else c

/-- The cursor behind spaces, a comment and the end of the line, if nothing else is on it. -/
def endLine? (c : Cursor) : Option Cursor :=
  let c := (c.skipWhile (· == ' ')).skipComment
  match c.lineBreak? with
  | some (_, c) => some c
  | none => if c.atEnd then some c else none

end Cursor

end Yaml

end ApiStubs
