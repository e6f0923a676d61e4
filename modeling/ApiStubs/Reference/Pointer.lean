import ApiStubs.Text.Split
import ApiStubs.Value

/-!
# Pointers

A pointer is a list of tokens that leads from a value to one inside it. In a token `~1` stands for a
slash and `~0` for a tilde.
-/

namespace ApiStubs

namespace Pointer

/-- A token without its escapes. -/
def unescape (token : List Char) : List Char :=
  Text.replacePair '~' '0' '~' (Text.replacePair '~' '1' '/' token)

/-- The tokens of a pointer, read from the text behind its first slash. -/
def tokens (text : List Char) : List String :=
  (Text.splitOn '/' text).map fun token => String.ofList (unescape token)

/-- The value that a pointer leads to, through objects only. -/
def resolve : List String → Value → Option Value
  | [], v => some v
  | token :: rest, .object fields =>
    match Fields.get? fields token with
    | some v => resolve rest v
    | none => none
  | _ :: _, _ => none

end Pointer

end ApiStubs
