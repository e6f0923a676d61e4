import ApiStubs.Schema
import ApiStubs.Spec

/-!
# Reading schemas

A schema object is read by its type. A reference to a component schema is kept by name and not
followed; everything else that is not one of the modelled types is unknown.
-/

namespace ApiStubs

namespace Spec

/-- The name of the component schema that a reference is for. -/
def componentName? (ref : String) : Option String :=
  (Text.dropStart? "#/components/schemas/".toList ref.toList).map fun rest =>
    String.ofList (Pointer.unescape rest)

/-- The first type of a list that is not the word `null`. -/
def firstType? (spec : Spec) : List Value → Except ReadFailure (Option Value)
  | [] => .ok none
  | v :: rest => do
    match ← spec.look v with
    | .scalar (.text "null") => firstType? spec rest
    | _ => .ok (some v)

/-- The type of a schema in words. Of a list of types the first one counts that is not null. -/
def typeWord? (spec : Spec) (fields : Fields) : Except ReadFailure (Option String) := do
  match Fields.get? fields "type" with
  | none | some (.scalar .null) => .ok none
  | some v =>
    match ← spec.look v with
    | .array types =>
      match ← spec.firstType? types with
      | none | some (.scalar .null) => .ok none
      | some t => .ok (some (← spec.display t))
    | _ => .ok (some (← spec.display v))

/-- The ways to compose a schema from others, none of which is modelled. -/
def compositions : List String :=
  ["allOf", "oneOf", "anyOf", "not"]

/-- A text that may be absent. -/
def textField? (fields : Fields) (name : String) : Except ReadFailure (Option String) :=
  match Fields.get? fields name with
  | none | some (.scalar .null) => .ok none
  | some (.scalar (.text s)) => .ok (some s)
  | some _ => .error .textExpected

/-- Named schemas of an object, in order; a name that is written twice keeps its place. -/
def putProperty : List (String × Schema) → String → Schema → List (String × Schema)
  | [], k, s => [(k, s)]
  | (k', s') :: rest, k, s => if k' = k then (k', s) :: rest else (k', s') :: putProperty rest k s

/-- Reads every value of an object. -/
def schemasOf (read : Value → Except ReadFailure Schema) :
    List (Scalar × Value) → Except ReadFailure (List (String × Schema))
  | [] => .ok []
  | (k, v) :: rest => do
    let s ← read v
    .ok ((k.display, s) :: (← schemasOf read rest))

/-- Reads the schema that some fields describe, with a reader for the schemas inside it. -/
def schemaOfFields (spec : Spec) (read : Value → Except ReadFailure Schema) (fields : Fields) :
    Except ReadFailure Schema := do
  let word ← spec.typeWord? fields
  if word = some "array" then
    match Fields.get? fields "items" with
    | none | some (.scalar .null) => .ok { kind := .array }
    | some v => .ok { kind := .array, items := some (← read v) }
  else if word = some "object" ∨ (word = none ∧ (Fields.get? fields "properties").isSome) then
    let properties ← fieldsOf (← spec.section? fields "properties")
    let schemas ← schemasOf read properties
    .ok { kind := .object, properties := schemas.foldl (fun l p => putProperty l p.1 p.2) [] }
  else
    match word.bind SchemaKind.ofScalarType? with
    | some kind => .ok { kind, format := ← textField? fields "format" }
    | none =>
      .ok { rawType := word.or (compositions.find? fun k => (Fields.get? fields k).isSome) }

/-- Reads a schema with at most `n` schemas inside each other. -/
def schemaUpTo (spec : Spec) : Nat → Value → Except ReadFailure Schema
  | 0, _ => .error .endless
  | n + 1, v => do
    match ← spec.look v with
    | .object _ =>
      match v.link?.bind componentName? with
      | some name => .ok { kind := .reference, refName := some name }
      | none =>
        match ← spec.follow v with
        | .object fields => spec.schemaOfFields (fun u => schemaUpTo spec n u) fields
        | _ => .ok {}
    | _ => .ok {}

/-- Reads a schema. -/
def schema (spec : Spec) (v : Value) : Except ReadFailure Schema :=
  spec.schemaUpTo (spec.schemaBound v) v

end Spec

end ApiStubs
