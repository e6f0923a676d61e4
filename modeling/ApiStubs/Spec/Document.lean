import ApiStubs.Spec.Operation

/-!
# Reading documents

The document that a specification describes: its title and version, its component schemas and its
routes.
-/

namespace ApiStubs

namespace Spec

/-- The word for what a value is. -/
def kindWord : Value → String
  | .scalar .null => "NoneType"
  | .scalar (.bool _) => "bool"
  | .scalar (.int _) => "int"
  | .scalar (.real _) => "float"
  | .scalar (.text _) => "str"
  | .scalar (.date ..) => "date"
  | .array _ => "list"
  | .object _ => "dict"

/-- A text under a key, or what stands for it. -/
def displayField (spec : Spec) (fields : Fields) (name default : String) :
    Except ReadFailure String :=
  match Fields.get? fields name with
  | none => .ok default
  | some v => spec.display v

/-- The fields of the whole specification. -/
def rootFields (spec : Spec) : Except ReadFailure Fields := do
  match ← spec.look spec.root with
  | .object fields => .ok fields
  | v =>
    let found := if spec.linkage = .linked ∧ spec.root.link?.isSome then "JsonRef" else kindWord v
    .error (.unreadable spec.source (.rootNotObject found))

/-- Reads the document of a specification. -/
def document (spec : Spec) : Reading Document := do
  let root ← spec.rootFields
  let info ← spec.section? root "info"
  let components ← fieldsOf (← spec.section? root "components")
  let schemas ← spec.section? components "schemas"
  let info ← fieldsOf info
  let title ← spec.displayField info "title" "API"
  let version ← spec.displayField info "version" "0.0.0"
  let schemas ← fieldsOf schemas
  let schemas ← schemasOf spec.schema schemas
  let paths ← fieldsOf (← spec.section? root "paths")
  let routes ← spec.routesOf paths
  let d : Document := { title, version, schemas := Table.ofList schemas, routes }
  Traced.note (.documentRead spec.source d.schemas.size d.routes.length)
  pure d

end Spec

end ApiStubs
