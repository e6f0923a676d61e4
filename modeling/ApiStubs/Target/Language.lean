import ApiStubs.Character.Case
import ApiStubs.Target.CSharp
import ApiStubs.Target.Python

/-!
# Languages

The languages that a library can be written in, each with its rules for names and its texts.
-/

namespace ApiStubs

inductive Language
  | csharp
  | python
deriving DecidableEq, Repr, Inhabited

namespace Language

/-- The languages in the order of their labels. -/
def all : List Language :=
  [.csharp, .python]

def label : Language → String
  | .csharp => "csharp"
  | .python => "python"

/-- The language with exactly this label. -/
def ofLabel? (s : String) : Option Language :=
  all.find? (·.label == s)

/-- The language with this label in any case. -/
def ofText? (s : String) : Option Language :=
  ofLabel? (String.ofList (Character.lower s.toList))

def naming : Language → Naming
  | .csharp => Naming.marked
  | .python => Naming.snake

def extension : Language → String
  | .csharp => CSharp.extension
  | .python => Python.extension

def anyName : Language → String
  | .csharp => CSharp.anyName
  | .python => Python.anyName

def primitive : Language → Primitive → String
  | .csharp => CSharp.primitive
  | .python => Python.primitive

def type (language : Language) (quoteNames : Bool) (d : Descriptor) : String :=
  match language with
  | .csharp => CSharp.type d
  | .python => Python.type quoteNames d

def result : Language → Completion → String
  | .csharp => CSharp.result
  | .python => Python.result

def methodTemplate : Language → MethodBody → Template
  | .csharp => CSharp.methodTemplate
  | .python => Python.methodTemplate

def method : Language → Signature → String
  | .csharp => CSharp.method
  | .python => Python.method

def model (language : Language) (namespaceName : String) (m : Model) : String :=
  match language with
  | .csharp => CSharp.model namespaceName m.name m.fields
  | .python => Python.model namespaceName m.name m.fields m.references

def client (language : Language) (namespaceName name : String) (methods : List Signature)
    (references : List String) : String :=
  match language with
  | .csharp => CSharp.client namespaceName name methods
  | .python => Python.client namespaceName name methods references

/-- The files that the language needs beside models and client. -/
def supportFiles (language : Language) (namespaceName client : String) (models : List String) :
    List SourceFile :=
  match language with
  | .csharp => []
  | .python => [Python.packageFile namespaceName client models]

end Language

end ApiStubs
