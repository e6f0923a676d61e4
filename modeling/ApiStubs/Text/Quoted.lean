import ApiStubs.Character.Class
import ApiStubs.Text.Hex

/-!
# Quoted text

The form in which messages show a text: between single quotes, or between double ones if it holds
single quotes only, with every character escaped that would not be seen.
-/

namespace ApiStubs

namespace Text

/-- The quotation mark that needs the fewest escapes. -/
def quoteMark (cs : List Char) : Char :=
  if cs.contains '\'' && !cs.contains '"' then '"' else '\''

/-- One character between quotation marks. -/
def quotedChar (mark c : Char) : List Char :=
  if c = mark ∨ c = '\\' then ['\\', c]
  else if c = '\n' then ['\\', 'n']
  else if c = '\r' then ['\\', 'r']
  else if c = '\t' then ['\\', 't']
  else if Character.isPrintable c then [c]
  else if c.toNat < 0x100 then '\\' :: 'x' :: hex 2 c.toNat
  else if c.toNat < 0x10000 then '\\' :: 'u' :: hex 4 c.toNat
  else '\\' :: 'U' :: hex 8 c.toNat

/-- The characters between the quotation marks. -/
def quotedBody (cs : List Char) : List Char :=
  cs.flatMap (quotedChar (quoteMark cs))

/-- A text between quotation marks. -/
def quoted (s : String) : String :=
  String.ofList (quoteMark s.toList :: quotedBody s.toList ++ [quoteMark s.toList])

end Text

end ApiStubs
