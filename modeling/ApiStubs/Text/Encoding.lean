/-!
# Texts as bytes

The bytes of a text in UTF-8, the text that bytes stand for, and the line breaks of a text that is
read from a file.
-/

namespace ApiStubs

namespace Text

/-- The bytes of a text. -/
def encode (s : String) : List UInt8 :=
  s.toUTF8.data.toList

/-- The text that some bytes stand for, if they stand for one. -/
def decode? (bytes : List UInt8) : Option String :=
  String.fromUTF8? ⟨bytes.toArray⟩

/-- A text in which each kind of line break is a line feed. -/
def plainBreaks : List Char → List Char
  | '\r' :: '\n' :: cs => '\n' :: plainBreaks cs
  | '\r' :: cs => '\n' :: plainBreaks cs
  | c :: cs => c :: plainBreaks cs
  | [] => []

theorem decode?_encode (s : String) : decode? (encode s) = some s := by
  simpa [decode?, encode, String.fromUTF8?] using ⟨s.isValidUTF8, rfl⟩

end Text

end ApiStubs
