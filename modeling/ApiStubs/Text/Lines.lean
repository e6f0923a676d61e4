import ApiStubs.Character.Class

/-!
# Lines

A text is cut after each line break, of which there are ten kinds, and indented line by line. A line
of blanks alone is left as it is.
-/

namespace ApiStubs

namespace Text

/-- The lines of a text, each with the break that ends it. -/
def lines : List Char → List (List Char)
  | [] => []
  | '\r' :: '\n' :: cs => ['\r', '\n'] :: lines cs
  | c :: cs =>
    if Character.isLineBreak c then [c] :: lines cs
    else
      match lines cs with
      | [] => [[c]]
      | l :: ls => (c :: l) :: ls

/-- One line behind a margin. -/
def indentLine (margin line : List Char) : List Char :=
  if line.all Character.isBlank then line else margin ++ line

/-- A text with every line behind a margin. -/
def indent (margin text : String) : String :=
  String.ofList ((lines text.toList).flatMap (indentLine margin.toList))

end Text

end ApiStubs
