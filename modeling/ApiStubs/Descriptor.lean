import ApiStubs.Schema

/-!
# Type descriptors

Types of fields, parameters and results before they are spelled in a language, and the descriptor of
a schema. Only an array without items has none.
-/

namespace ApiStubs

inductive Primitive
  | string
  | int32
  | int64
  | float32
  | float64
  | bool
deriving DecidableEq, Repr, Inhabited

inductive Descriptor
  | primitive (p : Primitive)
  | array (item : Descriptor)
  | named (name : String)
  | any
deriving DecidableEq, Repr, Inhabited

/-- What a call ends with some time later: a value of a type, or nothing. -/
structure Completion where
  payload : Option Descriptor := none
deriving DecidableEq, Repr, Inhabited

namespace Primitive

def all : List Primitive :=
  [.string, .int32, .int64, .float32, .float64, .bool]

def label : Primitive → String
  | .string => "string"
  | .int32 => "int32"
  | .int64 => "int64"
  | .float32 => "float32"
  | .float64 => "float64"
  | .bool => "bool"

def ofLabel? (s : String) : Option Primitive :=
  all.find? (·.label == s)

/-- The primitive type of a kind and a format. A format that is not listed counts as none. -/
def ofKind? : SchemaKind → Option String → Option Primitive
  | .string, _ => some .string
  | .integer, some "int64" => some .int64
  | .integer, _ => some .int32
  | .number, some "float" => some .float32
  | .number, _ => some .float64
  | .boolean, _ => some .bool
  | _, _ => none

end Primitive

namespace Descriptor

/-- The models that a type refers to. -/
def names : Descriptor → List String
  | .named n => [n]
  | .array item => item.names
  | _ => []

end Descriptor

namespace Completion

def names (c : Completion) : List String :=
  match c.payload with
  | some d => d.names
  | none => []

end Completion

/-- The context of an array without items, when none is known. -/
def contextOr (context : Option String) : String :=
  match context with
  | some "" | none => "<array>"
  | some s => s

namespace Schema

/-- The type of a schema that is not an array. -/
def leafType (kind : SchemaKind) (format refName : Option String) : Descriptor :=
  match kind, refName with
  | .reference, some name => if name.isEmpty then .any else .named name
  | _, _ =>
    match Primitive.ofKind? kind format with
    | some p => .primitive p
    | none => .any

/-- The type of a schema, or nothing if it is an array without items at some depth. -/
def type? : Schema → Option Descriptor
  | ⟨.array, _, some items, _, _, _⟩ => items.type?.map .array
  | ⟨.array, _, none, _, _, _⟩ => none
  | ⟨kind, format, _, _, refName, _⟩ => some (leafType kind format refName)

/-- What an unknown schema, possibly inside arrays, called itself. -/
def unmodeled? : Schema → Option String
  | ⟨.array, _, some items, _, _, _⟩ => items.unmodeled?
  | ⟨.unknown, _, _, _, _, rawType⟩ =>
    match rawType with
    | some "" | none => some "<без типа>"
    | some s => some s
  | _ => none

end Schema

end ApiStubs
