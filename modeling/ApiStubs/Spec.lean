import ApiStubs.Reference.Linked
import ApiStubs.Reference.Local
import ApiStubs.Value.Display

/-!
# Specifications

A specification is a value in which objects refer to each other. In a plain one, local references
are followed where an object is expected; in a linked one, every reference stands for its target
wherever it is looked at.
-/

namespace ApiStubs

inductive Linkage
  | plain
  | linked
deriving DecidableEq, Repr, Inhabited

structure Spec where
  root : Value
  linkage : Linkage := .plain
  source : String := "<document>"
deriving Inhabited

namespace Spec

/-- A specification with its links in place. A link under the key `$ref` itself is looked at too
early. -/
def linkedFrom (root : Value) (source : String) : Except ReadFailure Spec :=
  match Link.early? root with
  | some ref => .error (.brokenLink ref (Link.notServed ref))
  | none => .ok { root, linkage := .linked, source }

/-- What a value is when it is looked at. -/
def look (spec : Spec) (v : Value) : Except ReadFailure Value :=
  match spec.linkage with
  | .plain => .ok v
  | .linked => Link.resolve spec.root v

/-- The object that a value stands for where one is expected. -/
def follow (spec : Spec) (v : Value) : Except ReadFailure Value :=
  match spec.linkage with
  | .plain =>
    match Reference.follow spec.root v with
    | .ok v => .ok v
    | .error reason => .error (.unreadable spec.source reason)
  | .linked => Link.resolve spec.root v

mutual

/-- A value inside an array or an object, with its links looked at; a container inside itself is
only hinted at. -/
def innerUpTo (spec : Spec) : Nat → List Value → Value → Except ReadFailure String
  | 0, _, _ => .error .endless
  | n + 1, outer, v => do
    match ← spec.look v with
    | .scalar s => .ok s.inner
    | .array items =>
      if outer.contains (.array items) then .ok "[...]"
      else .ok (Value.bracketed (← innerItems spec n (.array items :: outer) items))
    | .object fields =>
      if outer.contains (.object fields) then .ok "\x7b...\x7d"
      else .ok (Value.braced (← innerFields spec n (.object fields :: outer) fields))

def innerItems (spec : Spec) : Nat → List Value → List Value → Except ReadFailure (List String)
  | 0, _, _ => .error .endless
  | _ + 1, _, [] => .ok []
  | n + 1, outer, v :: rest => do
    let first ← innerUpTo spec n outer v
    .ok (first :: (← innerItems spec n outer rest))

def innerFields (spec : Spec) :
    Nat → List Value → List (Scalar × Value) → Except ReadFailure (List String)
  | 0, _, _ => .error .endless
  | _ + 1, _, [] => .ok []
  | n + 1, outer, (k, v) :: rest => do
    let first ← innerUpTo spec n outer v
    .ok ((k.inner ++ ": " ++ first) :: (← innerFields spec n outer rest))

end

/-- A value as text. -/
def display (spec : Spec) (v : Value) : Except ReadFailure String :=
  match spec.linkage with
  | .plain => .ok v.display
  | .linked => do
    match ← spec.look v with
    | .scalar s => .ok s.display
    | v => innerUpTo spec (spec.root.size * (spec.root.size + 2) + v.size) [] v

/-- A section of an object: its fields, or none if it is absent or empty. -/
def section? (spec : Spec) (fields : Fields) (name : String) : Except ReadFailure Value :=
  match Fields.get? fields name with
  | none => .ok (.object [])
  | some v => do
    let v ← spec.look v
    .ok (if v.isEmpty then .object [] else v)

/-- The fields of a value that has to be an object. -/
def fieldsOf (v : Value) : Except ReadFailure Fields :=
  match v with
  | .object fields => .ok fields
  | _ => .error .objectExpected

/-- How many schemas can lie inside each other below a value before one of them is read inside
itself. -/
def schemaBound (spec : Spec) (v : Value) : Nat :=
  spec.root.size + v.size

end Spec

end ApiStubs
