import ApiStubs.Character.Class
import ApiStubs.Text.Split

/-!
# Naming

How a target language turns names of a document into names of code. Two rules are given beside the
one that changes nothing.
-/

namespace ApiStubs

/-- The rules for identifiers and file names, and the identifiers that no argument may have. -/
structure Naming where
  identifier : String → String
  unitName : String → String
  reserved : List String := []

namespace Naming

/-- Names are used as they are. -/
def verbatim : Naming where
  identifier := id
  unitName := id

namespace Snake

def keywords : List String :=
  ["False", "None", "True", "and", "as", "assert", "async", "await", "break", "class", "continue",
   "def", "del", "elif", "else", "except", "finally", "for", "from", "global", "if", "import", "in",
   "is", "lambda", "nonlocal", "not", "or", "pass", "raise", "return", "try", "while", "with",
   "yield"]

/-- A character that is neither a letter nor a number becomes an underscore. -/
def plain (c : Char) : Char :=
  if Character.isWord c then c else '_'

/-- One pass that turns two underscores into one, from the left. -/
def halve (cs : List Char) : List Char :=
  Text.replacePair '_' '_' '_' cs

/-- As many passes as it takes until no underscore is beside another one. -/
def squeeze (cs : List Char) : List Char :=
  if _h : Text.contains ['_', '_'] cs = true then squeeze (halve cs) else cs
termination_by cs.length
decreasing_by exact Text.length_replacePair_lt _h

/-- A name that starts with no digit and is not empty. -/
def started (cs : List Char) : List Char :=
  match cs with
  | [] => "param".toList
  | c :: _ => if Character.isDigit c then "param_".toList ++ cs else cs

/-- A name with other characters turned into single underscores, none of them at an end, and told
apart from digits and keywords. -/
def clean (name : String) : String :=
  let cs := started (Text.trimWhile (· == '_') (squeeze (name.toList.map plain)))
  let s := String.ofList cs
  if keywords.contains s then s ++ "_" else s

/-- A name that is an identifier is a file name as it stands. -/
def unitName (name : String) : String :=
  if Character.isIdentifier name.toList then name else clean name

end Snake

/-- Words joined by underscores; a keyword gets one at its end. -/
def snake : Naming where
  identifier := Snake.clean
  unitName := Snake.unitName
  reserved := ["self"]

namespace Marked

def keywords : List String :=
  ["abstract", "base", "bool", "break", "byte", "case", "catch", "char", "checked", "class",
   "const", "continue", "decimal", "default", "delegate", "do", "double", "else", "enum", "event",
   "explicit", "extern", "false", "finally", "fixed", "float", "for", "foreach", "goto", "if",
   "implicit", "in", "int", "interface", "internal", "is", "lock", "long", "namespace", "new",
   "null", "object", "operator", "out", "override", "params", "private", "protected", "public",
   "readonly", "ref", "return", "sbyte", "sealed", "short", "sizeof", "stackalloc", "static",
   "string", "struct", "switch", "this", "throw", "true", "try", "typeof", "uint", "ulong",
   "unchecked", "unsafe", "ushort", "using", "virtual", "void", "volatile", "while"]

/-- A character that is neither a letter nor a number becomes an underscore. -/
def plain (c : Char) : Char :=
  if Character.isWord c then c else '_'

/-- A name that starts with no digit. -/
def started (cs : List Char) : List Char :=
  match cs with
  | [] => []
  | c :: _ => if Character.isDigit c then '_' :: cs else cs

/-- A name with other characters turned into underscores; a keyword gets a mark in front. -/
def identifier (name : String) : String :=
  let s := String.ofList (started (name.toList.map plain))
  if keywords.contains s then "@" ++ s else s

end Marked

/-- Every other character is an underscore; a keyword gets a mark in front. -/
def marked : Naming where
  identifier := Marked.identifier
  unitName := id

end Naming

end ApiStubs
