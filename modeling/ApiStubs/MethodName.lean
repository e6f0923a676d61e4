import ApiStubs.Document
import ApiStubs.Text.Split

/-!
# Method names

The name of a client method is its verb followed by the segments of its route. A placeholder in
braces is announced by the word `By`.
-/

namespace ApiStubs

/-- A text with a capital at its start and the rest unchanged. -/
def capitalized : List Char → List Char
  | [] => []
  | c :: cs => Character.upper c ++ cs

namespace MethodName

/-- A segment that is a name in braces. -/
def isPlaceholder (segment : List Char) : Bool :=
  segment.head? == some '\x7b' && segment.getLast? == some '\x7d'

/-- What a segment adds to the name. -/
def part (segment : List Char) : List Char :=
  if isPlaceholder segment then 'B' :: 'y' :: capitalized (segment.drop 1).dropLast
  else capitalized segment

/-- The segments of a route that are not empty. -/
def segments (route : List Char) : List (List Char) :=
  (Text.splitOn '/' route).filter (!·.isEmpty)

/-- The name of the method for a verb and a route. -/
def synthesize (verb : Verb) (route : String) : String :=
  verb.canonical ++ String.ofList ((segments route.toList).flatMap part)

/-- The segments of a route that are placeholders. -/
def placeholders (route : String) : List String :=
  ((Text.splitOn '/' route.toList).filter isPlaceholder).map String.ofList

end MethodName

end ApiStubs
