import ApiStubs.Signature
import ApiStubs.Target.Naming
import ApiStubs.Target.Template
import ApiStubs.Text.Lines

/-!
# C#

Models as classes of properties and the client as a class of methods that return tasks, each in a
namespace.
-/

namespace ApiStubs

namespace CSharp

def identifier : String → String :=
  Naming.marked.identifier

def unitName : String → String :=
  Naming.marked.unitName

def extension : String := ".cs"

def anyName : String := "object"

def margin : String := "        "

def primitive : Primitive → String
  | .string => "string"
  | .int32 => "int"
  | .int64 => "long"
  | .float32 => "float"
  | .float64 => "double"
  | .bool => "bool"

/-- A type. Names of models are used as they are. -/
def type : Descriptor → String
  | .primitive p => primitive p
  | .array item => "List<" ++ type item ++ ">"
  | .named name => name
  | .any => anyName

def result (c : Completion) : String :=
  match c.payload with
  | none => "Task"
  | some d => "Task<" ++ type d ++ ">"

def property (f : ModelField) : String :=
  "public " ++ type f.type ++ " " ++ identifier f.name ++ " \x7b get; set; \x7d"

/-- A class with indented members in a namespace, below its imports. -/
def classFile (imports namespaceName name members : String) : String :=
  imports ++ "\nnamespace " ++ namespaceName ++ "\n\x7b\n    public class " ++ identifier name ++
    "\n    \x7b\n" ++ Text.indent margin members ++ "\n    \x7d\n\x7d\n"

def model (namespaceName name : String) (fields : List ModelField) : String :=
  classFile
    "using System;\nusing System.Collections.Generic;\nusing System.Text.Json.Serialization;\n"
    namespaceName name (Text.joinWith "\n" (fields.map property))

def methodTemplate : MethodBody → Template
  | .unimplemented =>
    [.text "public async ", .hole "return_type", .text " ", .hole "name", .text "(",
     .hole "parameters", .text ")\n\x7b\n    throw new NotImplementedException();\n\x7d"]

def argument (a : Argument) : String :=
  type a.type ++ " " ++ identifier a.name

def method (s : Signature) : String :=
  (methodTemplate .unimplemented).fill
    [("return_type", result s.result),
     ("name", identifier s.name),
     ("parameters", Text.joinWith ", " (s.arguments.map argument))]

def client (namespaceName name : String) (methods : List Signature) : String :=
  classFile
    ("using System;\nusing System.Collections.Generic;\nusing System.Net.Http;\n" ++
      "using System.Threading.Tasks;\n")
    namespaceName name (Text.joinWith "\n\n" (methods.map method))

end CSharp

end ApiStubs
