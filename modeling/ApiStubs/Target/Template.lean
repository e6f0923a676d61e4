import ApiStubs.Text.Split

/-!
# Templates

Texts with named holes. A template is filled by giving a text to each hole; its source is the form
in which it is written down, with holes in braces and braces doubled.
-/

namespace ApiStubs

inductive Piece
  | text (s : String)
  | hole (name : String)
deriving DecidableEq, Repr, Inhabited

abbrev Template := List Piece

/-- What the method of a client does when it is called. -/
inductive MethodBody
  | unimplemented
deriving DecidableEq, Repr, Inhabited

def MethodBody.ofLabel? (s : String) : Option MethodBody :=
  if s = "unimplemented" then some .unimplemented else none

namespace Template

/-- The text of a template under values for its holes; a hole without a value stays empty. -/
def fill (values : List (String × String)) (t : Template) : String :=
  Text.concat (t.map fun
    | .text s => s
    | .hole name => (values.lookup name).getD "")

/-- Braces of a text, doubled. -/
def doubled (s : String) : String :=
  String.ofList (s.toList.flatMap fun c => if c = '\x7b' ∨ c = '\x7d' then [c, c] else [c])

/-- A template as it is written down. -/
def source (t : Template) : String :=
  Text.concat (t.map fun
    | .text s => doubled s
    | .hole name => "\x7b" ++ name ++ "\x7d")

end Template

end ApiStubs
