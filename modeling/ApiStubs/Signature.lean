import ApiStubs.Descriptor
import ApiStubs.Document
import ApiStubs.Text.Order

/-!
# Models and signatures

The code to be written, before it is spelled in a language: data models with their fields, and
client methods with their arguments.
-/

namespace ApiStubs

structure ModelField where
  name : String
  type : Descriptor
deriving DecidableEq, Repr, Inhabited

structure Model where
  name : String
  fields : List ModelField := []
deriving DecidableEq, Repr, Inhabited

structure Argument where
  name : String
  type : Descriptor
deriving DecidableEq, Repr, Inhabited

structure Signature where
  name : String
  route : String
  verb : Verb
  arguments : List Argument := []
  result : Completion := {}
  description : Option String := none
deriving DecidableEq, Repr, Inhabited

/-- The models that the fields refer to. -/
def Model.references (m : Model) : List String :=
  firstOccurrences (m.fields.flatMap (·.type.names))

/-- The models that the arguments and the result refer to. -/
def Signature.references (s : Signature) : List String :=
  firstOccurrences (s.arguments.flatMap (·.type.names) ++ s.result.names)

/-- A signature as messages name it. -/
def Signature.label (s : Signature) : String :=
  operationLabel s.verb s.route

end ApiStubs
