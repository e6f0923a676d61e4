import ApiStubs.Reference.Failure
import ApiStubs.Reference.Pointer
import ApiStubs.Character.Class
import ApiStubs.Text.Percent

/-!
# Linked references

In a linked specification every object with a text under `$ref` is a link: it stands for the value
that its pointer leads to. A link is resolved when it is looked at, and pointers go through other
links, through arrays and through texts.
-/

namespace ApiStubs

namespace Link

/-- A location without the marks that are not part of it. -/
def cleaned (ref : List Char) : List Char :=
  (ref.dropWhile (fun c => c.toNat ≤ 0x20)).filter fun c => c ≠ '\t' ∧ c ≠ '\n' ∧ c ≠ '\r'

/-- The part of a reference before the first number sign. -/
def location (ref : String) : List Char :=
  (cleaned ref.toList).takeWhile (· ≠ '#')

/-- Why nothing is found at a location of its own: it has no scheme, or one that nobody serves. -/
def notServed (ref : String) : BrokenLink :=
  let location := location ref
  let scheme := location.takeWhile fun c => c ≠ '/' ∧ c ≠ ':'
  if !scheme.isEmpty && (location.drop scheme.length).head? == some ':' then
    .foreignScheme (String.ofList (scheme.map Char.toLower))
  else .foreign (String.ofList location)

/-- The part of a reference behind the first number sign. -/
def fragment (ref : String) : List Char :=
  ((cleaned ref.toList).dropWhile (· ≠ '#')).drop 1

/-- The tokens of a fragment. An empty fragment has none and means the whole specification. -/
def tokens (fragment : List Char) : List String :=
  if fragment.isEmpty then []
  else Pointer.tokens (Text.percentDecode (fragment.dropWhile (· = '/')))

/-- Digits in groups that single underscores separate, as a number; `n` is read already. -/
def grouped? (n : Nat) : List Char → Option Nat
  | [] => some n
  | '_' :: c :: cs => if c.isDigit then grouped? (n * 10 + (c.toNat - 48)) cs else none
  | c :: cs => if c.isDigit then grouped? (n * 10 + (c.toNat - 48)) cs else none

/-- A token that is an integer. -/
def integer? (token : String) : Option Int :=
  let cs := Text.trimWhile Character.isBlank token.toList
  let (negative, cs) :=
    match cs with
    | '-' :: cs => (true, cs)
    | '+' :: cs => (false, cs)
    | cs => (false, cs)
  match cs with
  | c :: rest =>
    if c.isDigit then
      (grouped? (c.toNat - 48) rest).map fun n => if negative then -(n : Int) else n
    else none
  | [] => none

/-- The member at an index; a negative index counts from the end. -/
def member? {α : Type} (members : List α) (i : Int) : Option α :=
  let i := if i < 0 then i + members.length else i
  if i < 0 then none else members[i.toNat]?

/-- The value that one token leads to. -/
def step? (token : String) : Value → Option Value
  | .object fields => Fields.get? fields token
  | .array items => (integer? token).bind (member? items)
  | .scalar (.text s) =>
    (integer? token).bind fun i => (member? s.toList i).map fun c => .text (String.singleton c)
  | .scalar _ => none

/-- Walks along a pointer. On its way it looks at every value, except that the link it belongs to is
taken as the object that it is written as. -/
def walk (look : Value → Except ReadFailure Value) (self : Value) (lost : ReadFailure) :
    List String → Value → Except ReadFailure Value
  | [], v => .ok v
  | token :: rest, v => do
    let seen ← if v.link? = self.link? ∧ v == self then .ok v else look v
    match step? token seen with
    | some next => walk look self lost rest next
    | none => .error lost

/-- What a value stands for, through at most `n` links inside each other. -/
def resolveUpTo (root : Value) : Nat → Value → Except ReadFailure Value
  | 0, v =>
    match v.link? with
    | none => .ok v
    | some _ => .error .endless
  | n + 1, v =>
    match v.link? with
    | none => .ok v
    | some ref =>
      if !(location ref).isEmpty then .error (.brokenLink ref (notServed ref))
      else do
        let lost := .brokenLink ref (.unresolvable (String.ofList (fragment ref)))
        let next ← walk (fun u => resolveUpTo root n u) v lost (tokens (fragment ref)) root
        if next.link? = some ref then .error (.brokenLink ref .toItself)
        else resolveUpTo root n next

/-- What a value of a specification stands for. Links that are resolved inside each other are all
different, unless resolving them never ends. -/
def resolve (root v : Value) : Except ReadFailure Value :=
  resolveUpTo root (root.links.length + 1) v

mutual

/-- The first link that stands itself under the key `$ref`; it is looked at before the
specification is there. -/
def early? : Value → Option String
  | .scalar _ => none
  | .array items => earlyItems? items
  | .object fields => (earlyFields? fields).or ((Fields.get? fields "$ref").bind Value.link?)

def earlyItems? : List Value → Option String
  | [] => none
  | v :: rest => (early? v).or (earlyItems? rest)

def earlyFields? : List (Scalar × Value) → Option String
  | [] => none
  | (_, v) :: rest => (early? v).or (earlyFields? rest)

end

end Link

end ApiStubs
