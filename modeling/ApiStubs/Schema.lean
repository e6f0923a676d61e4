/-!
# Schemas

The part of a schema that code is generated from. A node of any kind may carry any of the other
fields; which ones matter is decided by its kind.
-/

namespace ApiStubs

inductive SchemaKind
  | string
  | integer
  | number
  | boolean
  | array
  | object
  | reference
  | unknown
deriving DecidableEq, Repr, Inhabited

/-- A schema. `rawType` is what an unknown schema called itself. -/
structure Schema where
  kind : SchemaKind := .unknown
  format : Option String := none
  items : Option Schema := none
  properties : List (String × Schema) := []
  refName : Option String := none
  rawType : Option String := none
deriving BEq, Repr, Inhabited

namespace SchemaKind

def all : List SchemaKind :=
  [.string, .integer, .number, .boolean, .array, .object, .reference, .unknown]

/-- The word for a kind. -/
def label : SchemaKind → String
  | .string => "string"
  | .integer => "integer"
  | .number => "number"
  | .boolean => "boolean"
  | .array => "array"
  | .object => "object"
  | .reference => "reference"
  | .unknown => "unknown"

def ofLabel? (s : String) : Option SchemaKind :=
  all.find? (·.label == s)

/-- The kind of a schema whose type is one of the four words for scalars. -/
def ofScalarType? (s : String) : Option SchemaKind :=
  [string, integer, number, boolean].find? (·.label == s)

end SchemaKind

end ApiStubs
