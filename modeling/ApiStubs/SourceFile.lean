/-!
# Source files

The files that a library consists of.
-/

namespace ApiStubs

inductive FileKind
  | model
  | client
  | support
deriving DecidableEq, Repr, Inhabited

def FileKind.label : FileKind → String
  | .model => "model"
  | .client => "client"
  | .support => "support"

def FileKind.ofLabel? (s : String) : Option FileKind :=
  [FileKind.model, .client, .support].find? (·.label == s)

structure SourceFile where
  name : String
  extension : String
  kind : FileKind
  content : String
deriving DecidableEq, Repr, Inhabited

def SourceFile.fileName (f : SourceFile) : String :=
  f.name ++ f.extension

end ApiStubs
