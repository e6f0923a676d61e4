import ApiStubs.Signature
import ApiStubs.SourceFile
import ApiStubs.Target.Naming
import ApiStubs.Target.Template
import ApiStubs.Text.Lines
import ApiStubs.Text.Literal

/-!
# Python

Models as data classes with optional fields, the client as a class of coroutines, and the file that
makes a package of them. A field whose identifier differs from its name keeps the name as an alias.
-/

namespace ApiStubs

namespace Python

def identifier : String → String :=
  Naming.snake.identifier

def unitName : String → String :=
  Naming.snake.unitName

def extension : String := ".py"

def anyName : String := "Any"

def margin : String := "    "

def primitive : Primitive → String
  | .string => "str"
  | .int32 | .int64 => "int"
  | .float32 | .float64 => "float"
  | .bool => "bool"

/-- A type; the names of models are put between quotation marks on request. -/
def type (quoteNames : Bool) : Descriptor → String
  | .primitive p => primitive p
  | .array item => "List[" ++ type quoteNames item ++ "]"
  | .named name => if quoteNames then "\"" ++ identifier name ++ "\"" else identifier name
  | .any => anyName

/-- The type of a result; that a call takes time is said elsewhere. -/
def result (c : Completion) : String :=
  match c.payload with
  | none => "None"
  | some d => type false d

def header (namespaceName : String) : String :=
  "# Auto-generated by openapi-stubgen. Namespace: " ++ namespaceName ++ "\n"

/-- The line that imports a model or the client. -/
def importLine (name : String) : String :=
  "from ." ++ unitName name ++ " import " ++ identifier name

/-- Whether the identifier of a field is not its name. -/
def needsAlias (f : ModelField) : Bool :=
  identifier f.name != f.name

def fieldType (d : Descriptor) : String :=
  match d with
  | .any => type true .any
  | d => "Optional[" ++ type true d ++ "]"

def field (f : ModelField) : String :=
  if needsAlias f then
    identifier f.name ++ ": " ++ fieldType f.type ++ " = Field(default=None, alias=" ++
      Text.literal f.name ++ ")"
  else identifier f.name ++ ": " ++ fieldType f.type ++ " = None"

def modelConfig : String :=
  "model_config = ConfigDict(populate_by_name=True)\n"

/-- The members of a class, or the statement that does nothing. -/
def members (texts : List String) (sep : String) : String :=
  let body := Text.joinWith sep texts
  Text.indent margin (if body.isEmpty then "pass" else body)

/-- The imports that only a type checker follows. -/
def typeChecking (imports : List String) : String :=
  if imports.isEmpty then ""
  else "\nif TYPE_CHECKING:\n" ++ Text.indent margin (Text.joinWith "\n" imports) ++ "\n"

def model (namespaceName name : String) (fields : List ModelField) (references : List String) :
    String :=
  let lines := fields.map field
  let lines := if fields.any needsAlias then modelConfig :: lines else lines
  header namespaceName ++
    "\nfrom typing import TYPE_CHECKING, Any, List, Optional\n" ++
    "\nfrom pydantic import BaseModel, ConfigDict, Field\n" ++
    typeChecking ((references.filter (· ≠ name)).map importLine) ++
    "\n\nclass " ++ identifier name ++ "(BaseModel):\n" ++ members lines "\n" ++ "\n"

def methodTemplate : MethodBody → Template
  | .unimplemented =>
    [.text "async def ", .hole "name", .text "(", .hole "parameters", .text ") -> ",
     .hole "return_type", .text ":\n    raise NotImplementedError(", .hole "operation", .text ")"]

def argument (a : Argument) : String :=
  identifier a.name ++ ": " ++ type false a.type

def method (s : Signature) : String :=
  (methodTemplate .unimplemented).fill
    [("name", identifier s.name),
     ("parameters", Text.joinWith ", " ("self" :: s.arguments.map argument)),
     ("return_type", result s.result),
     ("operation", Text.literal s.label)]

def client (namespaceName name : String) (methods : List Signature) (references : List String) :
    String :=
  let imports := Text.concat (references.map fun r => "\n" ++ importLine r)
  header namespaceName ++ "\nfrom typing import Any, List, Optional\n" ++ imports ++
    (if imports.isEmpty then "" else "\n") ++ "\n\nclass " ++ identifier name ++ ":\n" ++
    members (methods.map method) "\n\n" ++ "\n"

/-- The identifiers that a package exports, each once and in order. -/
def exports (client : String) (models : List String) : List String :=
  Text.sorted (firstOccurrences ((models ++ [client]).map identifier))

def packageFile (namespaceName client : String) (models : List String) : SourceFile where
  name := "__init__"
  extension := extension
  kind := .support
  content :=
    header namespaceName ++ "\n" ++
      Text.joinWith "\n" ((models ++ [client]).map importLine) ++ "\n\n" ++
      Text.concat (models.map fun m => identifier m ++ ".model_rebuild()\n") ++
      "\n__all__ = [" ++ Text.joinWith ", " ((exports client models).map Text.literal) ++ "]\n"

end Python

end ApiStubs
