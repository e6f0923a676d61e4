import ApiStubs.Yaml.Node
import ApiStubs.Yaml.Resolution

/-!
# Reading YAML

The value of a document. Pairs under a merge key come before those of the mapping itself, so that
these win, and of two equal keys the first spelling and the last value stay.
-/

namespace ApiStubs

namespace Yaml

/-- Why a document has no value. -/
inductive Defect
  | broken
  | endless
deriving DecidableEq, Repr, Inhabited

def tagFor (name : String) : String :=
  "tag:yaml.org,2002:" ++ name

/-- The value of a scalar with one of the tags for scalars. -/
def taggedScalar (tag text : String) : Except Defect Scalar :=
  if tag = tagFor "str" then .ok (.text text)
  else
    match meaning text with
    | .value .null => if tag = tagFor "null" then .ok .null else .error .broken
    | .value (.bool b) => if tag = tagFor "bool" then .ok (.bool b) else .error .broken
    | .value (.int n) =>
      if tag = tagFor "int" then .ok (.int n)
      else if tag = tagFor "float" then .ok (.real (.ofDecimal (n < 0) n.natAbs 0))
      else .error .broken
    | .value (.real x) => if tag = tagFor "float" then .ok (.real x) else .error .broken
    | .value (.date y m d) =>
      if tag = tagFor "timestamp" then .ok (.date y m d) else .error .broken
    | _ => .error .broken

/-- The value of a scalar. A form that has a meaning as a key only has none. -/
def scalarValue (tag : Option String) (text : String) (plain : Bool) : Except Defect Scalar :=
  match tag with
  | none =>
    if plain then
      match meaning text with
      | .value s => .ok s
      | _ => .error .broken
    else .ok (.text text)
  | some "!" =>
    match meaning text with
    | .value s => .ok s
    | _ => .error .broken
  | some tag => taggedScalar tag text

/-- Whether a key asks for the pairs of other mappings. -/
def isMergeKey : Node → Bool
  | .scalar tag text plain =>
    match tag with
    | none => plain && text == "<<"
    | some tag => tag == tagFor "merge"
  | _ => false

/-- The key of a pair, which has to be a scalar. -/
def keyOf : Node → Except Defect Scalar
  | .scalar none "=" true => .ok (.text "=")
  | .scalar tag text plain => scalarValue tag text plain
  | .cycle => .error .endless
  | _ => .error .broken

/-- Whether a collection has no tag but the one that it has by its form. -/
def isUntagged (tag : Option String) (name : String) : Bool :=
  match tag with
  | none => true
  | some t => t == "!" || t == tagFor name

mutual

/-- The value of a node. -/
def valueOf : Nat → Node → Except Defect Value
  | 0, _ => .error .endless
  | _ + 1, .cycle => .error .endless
  | _ + 1, .scalar tag text plain => (scalarValue tag text plain).map .scalar
  | n + 1, .sequence tag items =>
    if isUntagged tag "seq" then do
      .ok (.array (← items.mapM fun item => valueOf n item))
    else .error .broken
  | n + 1, .mapping tag pairs =>
    if isUntagged tag "map" then do
      let (merged, own) ← pairsOf n pairs
      .ok (.object (Fields.ofList (merged ++ own)))
    else .error .broken

/-- The pairs of other mappings that a mapping takes over, and its own. -/
def pairsOf : Nat → List (Node × Node) →
    Except Defect (List (Scalar × Value) × List (Scalar × Value))
  | 0, _ => .error .endless
  | _ + 1, [] => .ok ([], [])
  | n + 1, (key, value) :: rest => do
    if isMergeKey key then
      let taken ← mergedFrom n value
      let (merged, own) ← pairsOf n rest
      .ok (taken ++ merged, own)
    else
      let k ← keyOf key
      let v ← valueOf n value
      let (merged, own) ← pairsOf n rest
      .ok (merged, (k, v) :: own)

/-- The pairs of a mapping, or of a list of mappings of which the first one wins. -/
def mergedFrom : Nat → Node → Except Defect (List (Scalar × Value))
  | 0, _ => .error .endless
  | _ + 1, .cycle => .error .endless
  | n + 1, .mapping _ pairs => do
    let (merged, own) ← pairsOf n pairs
    .ok (merged ++ own)
  | n + 1, .sequence _ items => do
    let parts ← items.mapM fun item =>
      match item with
      | .mapping _ pairs => do
        let (merged, own) ← pairsOf n pairs
        .ok (merged ++ own)
      | .cycle => .error .endless
      | _ => .error .broken
    .ok parts.reverse.flatten
  | _ + 1, .scalar .. => .error .broken

end

/-- The value of a text; an empty document stands for nothing. The bound grows with the number of
tokens, of which every level and every pair has one. -/
def read (s : String) : Except Defect Value :=
  match Token.ofText? s with
  | none => .error .broken
  | some tokens =>
    match Node.ofTokens? tokens with
    | none => .error .broken
    | some none => .ok .null
    | some (some node) => valueOf (2 * tokens.length + 4) node

end Yaml

end ApiStubs
