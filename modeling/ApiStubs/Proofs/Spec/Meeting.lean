import ApiStubs.Proofs.Reference.Denotation
import ApiStubs.Spec.Document

/-! # What the parser meets

The parser meets a value in a role. In an object that it reads it meets further values, and whatever
it shows it meets with all that is inside. A reference may stand where a schema, a parameter, a path
item, an operation, a body or an answer is expected, and its targets are met as well.
-/

namespace ApiStubs.Spec

open Reference

/-- What a value is read as. A plain value is only looked at, and a text is shown. -/
inductive Role
  | document
  | schema
  | parameter
  | pathItem
  | operation
  | body
  | target
  | text
  | plain
deriving DecidableEq, Repr

/-- Whether a reference may stand for a value of this role. -/
def Role.mayRefer : Role → Bool
  | .schema | .parameter | .pathItem | .operation | .body | .target => true
  | .document | .text | .plain => false

/-- The values under some keys, in a role. -/
def under (role : Role) (fields : Fields) (names : List String) : List (Role × Value) :=
  (names.filterMap (Fields.get? fields)).map fun v => (role, v)

/-- The fields of the object under a key. -/
def fieldsUnder (fields : Fields) (name : String) : Fields :=
  match Fields.get? fields name with
  | some (.object inner) => inner
  | _ => []

/-- The items of the array under a key. -/
def itemsUnder (fields : Fields) (name : String) : List Value :=
  match Fields.get? fields name with
  | some (.array items) => items
  | _ => []

/-- The values of some fields, in a role. -/
def valuesOf (role : Role) (fields : Fields) : List (Role × Value) :=
  fields.map fun p => (role, p.2)

def isNullWord : Value → Bool
  | .text s => s == "null"
  | _ => false

/-- The type of a schema, or of a list of types the first one that is not the word `null`. -/
def shownType (fields : Fields) : Option Value :=
  match Fields.get? fields "type" with
  | some (.array types) => types.find? fun t => !isNullWord t
  | t => t

/-- The schemas inside a schema of the given type. -/
def innerSchemas (word : Option String) (fields : Fields) : List (Role × Value) :=
  if word = some "array" then under .schema fields ["items"]
  else if word = some "object" ∨ (word = none ∧ (Fields.get? fields "properties").isSome) then
    under .plain fields ["properties"] ++ valuesOf .schema (fieldsUnder fields "properties")
  else []

/-- The operations among the fields of a path. -/
def operationFields (fields : Fields) : Fields :=
  fields.filter fun p => (Verb.ofText? p.1.display).isSome

/-- The values that are met in the fields of an object of some role. -/
def parts (root : Value) : Role → Fields → List (Role × Value)
  | .document, fields =>
    under .plain fields ["info", "components", "paths"] ++
      under .text (fieldsUnder fields "info") ["title", "version"] ++
      under .plain (fieldsUnder fields "components") ["schemas"] ++
      valuesOf .schema (fieldsUnder (fieldsUnder fields "components") "schemas") ++
      valuesOf .pathItem (fieldsUnder fields "paths")
  | .pathItem, fields =>
    under .plain fields ["parameters"] ++ valuesOf .operation (operationFields fields) ++
      if operationFields fields = [] then []
      else (itemsUnder fields "parameters").map fun v => (.parameter, v)
  | .operation, fields =>
    under .plain fields ["parameters", "responses"] ++
      (itemsUnder fields "parameters").map (fun v => (.parameter, v)) ++
      under .body fields ["requestBody"] ++ valuesOf .body (fieldsUnder fields "responses")
  | .body, fields =>
    under .plain fields ["content"] ++ valuesOf .plain (fieldsUnder fields "content") ++
      (fieldsUnder fields "content").flatMap fun p =>
        match p.2 with
        | .object media => under .schema media ["schema"]
        | _ => []
  | .parameter, fields =>
    if (Fields.get? fields "name").isSome then
      under .text fields ["name", "in"] ++ under .schema fields ["schema"]
    else []
  | .schema, fields =>
    (shownType fields).toList.map (fun v => (.text, v)) ++
      match ({ root } : Spec).typeWord? fields with
      | .ok word => innerSchemas word fields
      | .error _ => []
  | .target, _ | .text, _ | .plain, _ => []

/-- A schema that refers to a component is kept by name and not read. -/
def IsKept (role : Role) (v : Value) : Prop :=
  role = .schema ∧ v.link?.bind componentName? ≠ none

/-- The values that the parser meets, each in its role. -/
inductive Met (root : Value) : Role → Value → Prop where
  | root : Met root .document root
  | part {role role' : Role} {v u : Value} {fields : Fields} : Met root role v → ¬ IsKept role v →
      Denotes root v (.object fields) → (role', u) ∈ parts root role fields → Met root role' u
  | item {items : List Value} {v : Value} : Met root .text (.array items) → v ∈ items →
      Met root .text v
  | field {fields : Fields} {k : Scalar} {v : Value} : Met root .text (.object fields) →
      (k, v) ∈ fields → Met root .text v
  | target {role : Role} {v u : Value} {ref : String} : Met root role v → role.mayRefer = true →
      v.link? = some ref → Pointer.resolve (tokens ref) root = some u → Met root .target u

/-- Every reference that the parser meets is local and stands where one may stand. -/
def WellLinked (root : Value) : Prop :=
  ∀ role v ref, Met root role v → v.link? = some ref → role.mayRefer = true ∧ IsLocal root ref

variable {root v : Value} {role : Role}

/-- The values where references may stand. -/
def Referring (root v : Value) : Prop :=
  ∃ role : Role, role.mayRefer = true ∧ Met root role v

theorem WellLinked.localChains (h : WellLinked root) : LocalChains root (Referring root) where
  isLocal := by
    rintro v ref ⟨role, hr, hm⟩ hlink
    exact (h role v ref hm hlink).2
  target := by
    rintro v ref u ⟨role, hr, hm⟩ hlink hresolve
    exact ⟨.target, rfl, hm.target hr hlink hresolve⟩

theorem WellLinked.link?_eq_none (h : WellLinked root) (hm : Met root role v)
    (hr : role.mayRefer = false) : v.link? = none := by
  cases hlink : v.link? with
  | none => rfl
  | some ref =>
    have hrefer := (h role v ref hm hlink).1
    rw [hr] at hrefer
    cases hrefer

end ApiStubs.Spec
