import ApiStubs.Reference.Failure
import ApiStubs.Reference.Pointer

/-!
# Local references

An object whose `$ref` starts with `#/` stands for the object that the pointer behind it leads to.
A chain of such references is followed to its end, unless it comes back to one that was followed.
-/

namespace ApiStubs

namespace Reference

/-- The reference of an object, if it points into the same specification. -/
def localRef? (v : Value) : Option String :=
  match v.link? with
  | some ref => if (Text.dropStart? ['#', '/'] ref.toList).isSome then some ref else none
  | none => none

/-- The object that a local reference leads to. -/
def target (root : Value) (ref : String) : Except Unreadable Value :=
  match Pointer.resolve (Pointer.tokens (ref.toList.drop 2)) root with
  | some (.object fields) => .ok (.object fields)
  | some _ => .error (.referenceToScalar ref)
  | none => .error (.danglingReference ref)

/-- Follows a chain in which `seen` has been followed, over at most `n` references. -/
def followUpTo (root : Value) : Nat → List String → Value → Except Unreadable Value
  | n, seen, v =>
    match localRef? v with
    | none => .ok v
    | some ref =>
      if seen.contains ref then .error (.circularReference ref)
      else
        match n with
        | 0 => .error (.circularReference ref)
        | n + 1 => do
          let next ← target root ref
          followUpTo root n (ref :: seen) next

/-- The end of the chain of references that starts at an object. No chain without repetition is
longer than the number of references in the specification, and one. -/
def follow (root : Value) (v : Value) : Except Unreadable Value :=
  followUpTo root (root.links.length + 1) [] v

end Reference

end ApiStubs
