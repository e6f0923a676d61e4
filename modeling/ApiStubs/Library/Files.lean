import ApiStubs.Target.Language

/-!
# Files of a library

The file of a model and the file of the client in a language.
-/

namespace ApiStubs

namespace Library

def modelFile (language : Language) (namespaceName : String) (m : Model) : SourceFile where
  name := language.naming.unitName m.name
  extension := language.extension
  kind := .model
  content := language.model namespaceName m

/-- The models that some methods refer to, in the order of their code points. -/
def clientReferences (methods : List Signature) : List String :=
  Text.sorted (firstOccurrences (methods.flatMap (·.references)))

def clientFile (language : Language) (namespaceName name : String) (methods : List Signature) :
    SourceFile where
  name := language.naming.unitName name
  extension := language.extension
  kind := .client
  content := language.client namespaceName name methods (clientReferences methods)

end Library

end ApiStubs
