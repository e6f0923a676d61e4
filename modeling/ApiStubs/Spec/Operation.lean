import ApiStubs.Document
import ApiStubs.Spec.Schema
import ApiStubs.Traced

/-!
# Reading operations

Routes, their operations, and the parameters, bodies and answers of these. A parameter of an
operation takes the place of one of its path with the same name and location.
-/

namespace ApiStubs

namespace Spec

abbrev Reading := Traced ReadFailure

/-- A parameter. What is no object is none, and one without a name is reported. -/
def parameter? (spec : Spec) (v : Value) : Reading (Option Parameter) := do
  match ← spec.look v with
  | .object _ =>
    match ← spec.follow v with
    | .object fields =>
      match Fields.get? fields "name" with
      | none => do
        Traced.note (.namelessParameter spec.source)
        pure none
      | some name => do
        let name ← spec.display name
        let location ←
          match Fields.get? fields "in" with
          | none => pure "query"
          | some v => spec.display v
        let schema ←
          match Fields.get? fields "schema" with
          | none => pure {}
          | some v => spec.schema v
        pure (some ⟨name, location, schema⟩)
    | _ => pure none
  | _ => pure none

/-- The parameters that are left of a list of values. -/
def parametersOf (spec : Spec) : List Value → Reading (List Parameter)
  | [] => pure []
  | v :: rest => do
    match ← spec.parameter? v with
    | some p => do
      let others ← parametersOf spec rest
      pure (p :: others)
    | none => parametersOf spec rest

/-- The parameters of a path that no parameter of the operation overrides, then those of the
operation. -/
def mergeParameters (shared own : List Parameter) : List Parameter :=
  shared.filter (fun p => !own.any fun q => q.name == p.name && q.location == p.location) ++ own

/-- The parameters of an operation whose path has parameters of its own. -/
def parameters (spec : Spec) (shared own : List Value) : Reading (List Parameter) := do
  let own ← spec.parametersOf own
  let shared ← spec.parametersOf shared
  pure (mergeParameters shared own)

/-- The members of a value that has to be a list. A text has its characters as members and an object
its keys. -/
def membersOf : Value → Except ReadFailure (List Value)
  | .array items => .ok items
  | .object fields => .ok (fields.map fun p => .scalar p.1)
  | .scalar (.text s) => .ok (s.toList.map fun c => .text (String.singleton c))
  | .scalar _ => .error .listExpected

/-- The members under a key; an absent or empty value has none. -/
def listField (spec : Spec) (fields : Fields) (name : String) : Except ReadFailure Value := do
  match Fields.get? fields name with
  | none => .ok (.array [])
  | some v =>
    let v ← spec.look v
    .ok (if v.isEmpty then .array [] else v)

/-- The schema of one media type. -/
def mediaSchema (spec : Spec) (media : Value) : Except ReadFailure Schema := do
  match ← spec.look media with
  | .object fields =>
    match Fields.get? fields "schema" with
    | none => .ok {}
    | some v => spec.schema v
  | _ => .ok {}

/-- The schemas of a body by media type. -/
def content (spec : Spec) (fields : Fields) : Except ReadFailure Content := do
  let media ← fieldsOf (← spec.section? fields "content")
  .ok (Table.ofList (← schemasOf spec.mediaSchema media))

/-- The content of a body or an answer; what is no object has none. -/
def contentOf? (spec : Spec) (v : Value) : Except ReadFailure (Option Content) := do
  match ← spec.look v with
  | .object _ =>
    match ← spec.follow v with
    | .object fields => .ok (some (← spec.content fields))
    | _ => .ok none
  | _ => .ok none

/-- The contents of the answers by status. -/
def answersOf (spec : Spec) :
    List (Scalar × Value) → Except ReadFailure (List (String × Content))
  | [] => .ok []
  | (status, v) :: rest => do
    let content ← spec.contentOf? v
    .ok ((status.display, content.getD {}) :: (← answersOf spec rest))

/-- The fields of the object that a value stands for, or none. -/
def objectFields (spec : Spec) (v : Value) : Except ReadFailure Fields := do
  match ← spec.look v with
  | .object _ =>
    match ← spec.follow v with
    | .object fields => .ok fields
    | _ => .ok []
  | _ => .ok []

/-- An operation under a path with the given shared parameters. -/
def operation (spec : Spec) (verb : Verb) (shared v : Value) : Reading Operation := do
  let fields ← spec.objectFields v
  let shared ← membersOf shared
  let own ← membersOf (← spec.listField fields "parameters")
  let parameters ← spec.parameters shared own
  let requestBody ←
    match Fields.get? fields "requestBody" with
    | none => pure none
    | some body => spec.contentOf? body
  let responses ← fieldsOf (← spec.section? fields "responses")
  let answers ← spec.answersOf responses
  let summary ← textField? fields "summary"
  pure { verb, parameters, requestBody, responses := Table.ofList answers, summary }

/-- The operations among the fields of a path, in order. -/
def operationsOf (spec : Spec) (shared : Value) :
    List (Scalar × Value) → Reading (List (Verb × Operation))
  | [] => pure []
  | (key, v) :: rest =>
    match Verb.ofText? key.display with
    | none => operationsOf spec shared rest
    | some verb => do
      let o ← spec.operation verb shared v
      let others ← operationsOf spec shared rest
      pure ((verb, o) :: others)

/-- A route. -/
def route (spec : Spec) (path : String) (v : Value) : Reading Route := do
  let fields ← spec.objectFields v
  let shared ← spec.listField fields "parameters"
  let operations ← spec.operationsOf shared fields
  pure ⟨path, Table.ofList operations⟩

/-- The routes under some paths, in order. -/
def routesOf (spec : Spec) : List (Scalar × Value) → Reading (List Route)
  | [] => pure []
  | (path, v) :: rest => do
    let r ← spec.route path.display v
    let others ← routesOf spec rest
    pure (r :: others)

end Spec

end ApiStubs
