import ApiStubs.Library.Files
import ApiStubs.Target.Language

/-!
# Outlines

What every language has in common before it says anything of its own: names are used as they are,
and a type without a spelling is refused. A target is a language or the bare outline.
-/

namespace ApiStubs

/-- Why a text cannot be written for a target. -/
inductive Unspelled
  | primitiveUnnamed
  | notSpelled
  | notAType
  | bodyUnsupported (body : String)
deriving DecidableEq, Repr, Inhabited

inductive Target
  | bare
  | language (l : Language)
deriving DecidableEq, Repr, Inhabited

/-- A type, or what a call ends with. -/
inductive TypeText
  | plain (d : Descriptor)
  | completion (c : Completion)
deriving DecidableEq, Repr, Inhabited

def TypeText.names : TypeText → List String
  | .plain d => d.names
  | .completion c => c.names

/-- The result type that a type stands for when a call returns it. -/
def TypeText.toCompletion : TypeText → Completion
  | .plain d => ⟨some d⟩
  | .completion c => c

namespace Target

/-- The target with this label: the bare outline is meant by `base`, a language in any case. -/
def ofText? (s : String) : Option Target :=
  if s = "base" then some .bare else (Language.ofText? s).map .language

def label : Target → String
  | .bare => ""
  | .language l => l.label

def extension : Target → String
  | .bare => ""
  | .language l => l.extension

def anyName : Target → String
  | .bare => ""
  | .language l => l.anyName

/-- One step of indentation. -/
def margin : Target → String
  | _ => "    "

def naming : Target → Naming
  | .bare => Naming.verbatim
  | .language l => l.naming

/-- The primitive types that have a name. -/
def primitives : Target → List (Primitive × String)
  | .bare => []
  | .language l => Primitive.all.map fun p => (p, l.primitive p)

/-- The outline spells neither primitive types nor arrays. -/
def bareType : Descriptor → Except Unspelled String
  | .primitive _ => .error .primitiveUnnamed
  | .array item => do
    let _ ← bareType item
    .error .notSpelled
  | .named name => .ok name
  | .any => .ok ""

def type (t : Target) (quoteNames : Bool) : TypeText → Except Unspelled String
  | .completion _ => .error .notAType
  | .plain d =>
    match t with
    | .bare => bareType d
    | .language l => .ok (l.type quoteNames d)

def result (t : Target) (c : Completion) : Except Unspelled String :=
  match t with
  | .bare => .error .notSpelled
  | .language l => .ok (l.result c)

/-- The source of the method template for a body. -/
def methodSource (t : Target) (body : String) : Except Unspelled String :=
  match t with
  | .bare => .error .notSpelled
  | .language l =>
    match MethodBody.ofLabel? body with
    | some b => .ok (l.methodTemplate b).source
    | none => .error (.bodyUnsupported body)

def method (t : Target) (s : Signature) : Except Unspelled String :=
  match t with
  | .bare => .error .notSpelled
  | .language l => .ok (l.method s)

def modelFile (t : Target) (namespaceName : String) (m : Model) : Except Unspelled SourceFile :=
  match t with
  | .bare => .error .notSpelled
  | .language l => .ok (Library.modelFile l namespaceName m)

def clientFile (t : Target) (namespaceName name : String) (methods : List Signature) :
    Except Unspelled SourceFile :=
  match t with
  | .bare => .error .notSpelled
  | .language l => .ok (Library.clientFile l namespaceName name methods)

def supportFiles (t : Target) (namespaceName client : String) (models : List String) :
    List SourceFile :=
  match t with
  | .bare => []
  | .language l => l.supportFiles namespaceName client models

end Target

end ApiStubs
