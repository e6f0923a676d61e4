import ApiStubs.Number.Double

/-!
# Values

The values that a specification is written in: scalars, arrays and objects. An object keeps its
fields in the order in which they were written, and its keys are scalars.
-/

namespace ApiStubs

inductive Scalar
  | null
  | bool (b : Bool)
  | int (n : Int)
  | real (x : Double)
  | text (s : String)
  | date (year month day : Nat)
deriving DecidableEq, Repr, Inhabited

inductive Value
  | scalar (s : Scalar)
  | array (items : List Value)
  | object (fields : List (Scalar × Value))
deriving Repr, Inhabited

abbrev Fields := List (Scalar × Value)

namespace Scalar

/-- The number that a scalar stands for among keys: a truth value counts as zero or one. -/
def number? : Scalar → Option Double ⊕ Option Int
  | .bool b => .inr (some (if b then 1 else 0))
  | .int n => .inr (some n)
  | .real x =>
    match x.toInt? with
    | some n => .inr (some n)
    | none => .inl (some x)
  | _ => .inr none

/-- Whether two scalars are one and the same key. -/
def sameKey (a b : Scalar) : Bool :=
  match a.number?, b.number? with
  | .inr (some m), .inr (some n) => m == n
  | .inl (some x), .inl (some y) => x.same y
  | .inr none, .inr none => a == b
  | _, _ => false

/-- Null, false, zero and the empty text count as absent. -/
def isEmpty : Scalar → Bool
  | .null => true
  | .bool b => !b
  | .int n => n == 0
  | .real x => x.isZero
  | .text s => s.isEmpty
  | .date .. => false

end Scalar

namespace Value

mutual

/-- Whether two values are one and the same, item by item and field by field. -/
def same : Value → Value → Bool
  | .scalar a, .scalar b => a == b
  | .array a, .array b => sameItems a b
  | .object a, .object b => sameFields a b
  | _, _ => false

def sameItems : List Value → List Value → Bool
  | [], [] => true
  | a :: as, b :: bs => same a b && sameItems as bs
  | _, _ => false

def sameFields : List (Scalar × Value) → List (Scalar × Value) → Bool
  | [], [] => true
  | (j, a) :: as, (k, b) :: bs => j == k && same a b && sameFields as bs
  | _, _ => false

end

instance : BEq Value := ⟨same⟩

mutual

theorem eq_of_same : ∀ {a b : Value}, same a b = true → a = b
  | .scalar _, .scalar _, h => by
    simp only [same, beq_iff_eq] at h
    rw [h]
  | .array _, .array _, h => by
    simp only [same] at h
    rw [eq_of_sameItems h]
  | .object _, .object _, h => by
    simp only [same] at h
    rw [eq_of_sameFields h]
  | .scalar _, .array _, h | .scalar _, .object _, h | .array _, .scalar _, h
  | .array _, .object _, h | .object _, .scalar _, h | .object _, .array _, h => by
    simp [same] at h

theorem eq_of_sameItems : ∀ {as bs : List Value}, sameItems as bs = true → as = bs
  | [], [], _ => rfl
  | a :: as, b :: bs, h => by
    simp only [sameItems, Bool.and_eq_true] at h
    rw [eq_of_same h.1, eq_of_sameItems h.2]
  | [], _ :: _, h | _ :: _, [], h => by simp [sameItems] at h

theorem eq_of_sameFields : ∀ {as bs : List (Scalar × Value)}, sameFields as bs = true → as = bs
  | [], [], _ => rfl
  | (j, a) :: as, (k, b) :: bs, h => by
    simp only [sameFields, Bool.and_eq_true, beq_iff_eq] at h
    rw [h.1.1, eq_of_same h.1.2, eq_of_sameFields h.2]
  | [], _ :: _, h | _ :: _, [], h => by simp [sameFields] at h

end

mutual

theorem same_self : ∀ a : Value, same a a = true
  | .scalar s => by simp [same]
  | .array items => by rw [same, sameItems_self items]
  | .object fields => by rw [same, sameFields_self fields]

theorem sameItems_self : ∀ as : List Value, sameItems as as = true
  | [] => rfl
  | a :: as => by rw [sameItems, same_self a, sameItems_self as]; rfl

theorem sameFields_self : ∀ as : List (Scalar × Value), sameFields as as = true
  | [] => rfl
  | (k, a) :: as => by simp [sameFields, same_self a, sameFields_self as]

end

instance : LawfulBEq Value where
  eq_of_beq := eq_of_same
  rfl := same_self _

def null : Value := .scalar .null

@[match_pattern] def text (s : String) : Value := .scalar (.text s)

/-- Empty arrays and objects count as absent, as empty scalars do. -/
def isEmpty : Value → Bool
  | .scalar s => s.isEmpty
  | .array items => items.isEmpty
  | .object fields => fields.isEmpty

end Value

namespace Fields

/-- The value under a text key. -/
def get? : Fields → String → Option Value
  | [], _ => none
  | (k, v) :: rest, name => if k = .text name then some v else get? rest name

/-- Writes a field. A key that is there already keeps its place and its spelling. -/
def put : Fields → Scalar → Value → Fields
  | [], k, v => [(k, v)]
  | (k', v') :: rest, k, v => if k'.sameKey k then (k', v) :: rest else (k', v') :: put rest k v

/-- The fields of an object in which a repeated key has its last value. -/
def ofList (pairs : List (Scalar × Value)) : Fields :=
  pairs.foldl (fun fields p => put fields p.1 p.2) []

end Fields

namespace Value

/-- The text under the key `$ref`, which makes an object a reference. -/
def link? : Value → Option String
  | .object fields =>
    match Fields.get? fields "$ref" with
    | some (.scalar (.text s)) => some s
    | _ => none
  | _ => none

mutual

/-- The number of scalars, items, fields and containers of a value. -/
def size : Value → Nat
  | .scalar _ => 1
  | .array items => sizeItems items + 1
  | .object fields => sizeFields fields + 1

def sizeItems : List Value → Nat
  | [] => 0
  | v :: rest => v.size + sizeItems rest + 1

def sizeFields : List (Scalar × Value) → Nat
  | [] => 0
  | (_, v) :: rest => v.size + sizeFields rest + 1

end

mutual

/-- All references in a value, in the order in which they are written. -/
def links : Value → List String
  | .scalar _ => []
  | .array items => linksItems items
  | .object fields =>
    match (Value.object fields).link? with
    | some s => s :: linksFields fields
    | none => linksFields fields

def linksItems : List Value → List String
  | [] => []
  | v :: rest => v.links ++ linksItems rest

def linksFields : List (Scalar × Value) → List String
  | [] => []
  | (_, v) :: rest => v.links ++ linksFields rest

end

end Value

end ApiStubs
