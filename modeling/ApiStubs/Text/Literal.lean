import ApiStubs.Text.Hex

/-!
# String literals

A string literal in double quotes that holds printable ASCII only. Everything else is escaped in
units of sixteen bits, so that a character beyond the first plane takes two escapes.
-/

namespace ApiStubs

namespace Text

/-- The units of sixteen bits that stand for a code point. -/
def units16 (n : Nat) : List Nat :=
  if n < 0x10000 then [n]
  else [0xD800 + (n - 0x10000) / 0x400, 0xDC00 + (n - 0x10000) % 0x400]

/-- One character of a literal. -/
def literalChar (c : Char) : List Char :=
  if c = '"' ∨ c = '\\' then ['\\', c]
  else if c = '\n' then ['\\', 'n']
  else if c = '\r' then ['\\', 'r']
  else if c = '\t' then ['\\', 't']
  else if c = '\x08' then ['\\', 'b']
  else if c = '\x0c' then ['\\', 'f']
  else if ' ' ≤ c ∧ c ≤ '~' then [c]
  else (units16 c.toNat).flatMap fun u => '\\' :: 'u' :: hex 4 u

/-- A text as a string literal. -/
def literal (s : String) : String :=
  String.ofList ('"' :: s.toList.flatMap literalChar ++ ['"'])

end Text

end ApiStubs
