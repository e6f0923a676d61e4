import ApiStubs.Character.Alphanumeric
import ApiStubs.Character.Digit
import ApiStubs.Character.IdentifierContinue
import ApiStubs.Character.IdentifierStart
import ApiStubs.Character.Printable

/-!
# Character classes

Membership in the classes that names, quotations and line layout depend on. Every class is a list of
ascending ranges of code points.
-/

namespace ApiStubs

namespace Character

/-- Whether a code point lies in one of some ascending ranges. -/
def inRanges : List (Nat × Nat) → Nat → Bool
  | [], _ => false
  | (lo, hi) :: rest, n => if n < lo then false else n ≤ hi || inRanges rest n

/-- A letter or a number of any script. -/
def isAlphanumeric (c : Char) : Bool :=
  inRanges alphanumericRanges c.toNat

/-- A digit of any script. -/
def isDigit (c : Char) : Bool :=
  inRanges digitRanges c.toNat

/-- A letter, a number or the underscore. -/
def isWord (c : Char) : Bool :=
  isAlphanumeric c || c == '_'

/-- A character with which an identifier may start. -/
def isIdentifierStart (c : Char) : Bool :=
  inRanges identifierStartRanges c.toNat

/-- A character with which an identifier may go on. -/
def isIdentifierContinue (c : Char) : Bool :=
  inRanges identifierContinueRanges c.toNat

/-- A character that a quoted text shows as it is. -/
def isPrintable (c : Char) : Bool :=
  inRanges printableRanges c.toNat

/-- Blanks of every width, tabs and line separators. -/
def blankRanges : List (Nat × Nat) :=
  [(0x9, 0xD), (0x1C, 0x20), (0x85, 0x85), (0xA0, 0xA0), (0x1680, 0x1680), (0x2000, 0x200A),
   (0x2028, 0x2029), (0x202F, 0x202F), (0x205F, 0x205F), (0x3000, 0x3000)]

/-- A character that leaves nothing on the page. -/
def isBlank (c : Char) : Bool :=
  inRanges blankRanges c.toNat

/-- A character that ends a line; a carriage return and the line feed after it end one line. -/
def isLineBreak (c : Char) : Bool :=
  c == '\n' || c == '\r' || c == '\x0b' || c == '\x0c' || c == '\x1c' || c == '\x1d' ||
    c == '\x1e' || c == '\u0085' || c == '\u2028' || c == '\u2029'

/-- An identifier: one starting character, then continuing ones. -/
def isIdentifier : List Char → Bool
  | [] => false
  | c :: cs => isIdentifierStart c && cs.all isIdentifierContinue

end Character

end ApiStubs
