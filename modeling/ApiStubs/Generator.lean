import ApiStubs.Failure
import ApiStubs.Library.Generation
import ApiStubs.Spec.Document

/-!
# From a specification to a library

What a library can be generated from, and the way from there: the language is looked up first, then
the document is read, then the library is generated from it.
-/

namespace ApiStubs

/-- What a library is generated from. -/
inductive Origin
  | missing
  | document (d : Document)
  | spec (s : Spec)
deriving Inhabited

namespace Origin

/-- The document that there is, if any. -/
def document? : Origin → Traced Failure (Option Document)
  | .missing => pure none
  | .document d => pure (some d)
  | .spec s => some <$> s.document.mapFailure .reading

end Origin

/-- A library that has to be complete. -/
def Library.complete (l : Library) : Except Failure Library :=
  if l.isComplete then .ok l else .error (.incomplete l.issues)

/-- The name of the method for a verb in any case. -/
def MethodName.forText (verb route : String) : Except Failure String :=
  match Verb.ofText? verb with
  | some v => .ok (MethodName.synthesize v route)
  | none => .error (.unknownVerb (String.ofList (Character.lower verb.toList)))

/-- The language with a label. -/
def languageOf (label : String) : Except Failure Language :=
  match Language.ofText? label with
  | some l => .ok l
  | none => .error (.unknownTarget label)

/-- The library of a document, if there is a document. -/
def libraryOf (plan : Library.Plan) : Option Document → Traced Failure Library
  | none => throw .documentMissing
  | some d => { notices := Library.notices plan d, outcome := .ok (Library.generate plan d) }

/-- Generates a library in the language with a label. -/
def generateLibrary (origin : Origin) (namespaceName client label : String) :
    Traced Failure Library := do
  let language ← languageOf label
  let document ← origin.document?
  libraryOf { language, namespaceName, client } document

end ApiStubs
