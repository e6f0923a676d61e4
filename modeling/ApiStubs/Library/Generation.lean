import ApiStubs.Library.Files
import ApiStubs.Library.Methods

/-!
# Libraries

A library is generated from a document in one language: a file for every model that can be built,
one for the client and those that the language needs besides. Whatever is left out has an issue.
-/

namespace ApiStubs

/-- A library: its files and what is missing from it. -/
structure Library where
  files : List SourceFile
  issues : List Issue := []
deriving DecidableEq, Repr, Inhabited

namespace Library

/-- Whether nothing is missing. -/
def isComplete (l : Library) : Bool :=
  l.issues.isEmpty

def modelFiles (l : Library) : List SourceFile :=
  l.files.filter (·.kind = .model)

/-- The first client file. -/
def client? (l : Library) : Option SourceFile :=
  l.files.find? (·.kind = .client)

/-- The first file with a name. -/
def get? (l : Library) (name : String) : Option SourceFile :=
  l.files.find? (·.name = name)

/-- What a library is generated for. -/
structure Plan where
  language : Language
  namespaceName : String := "Generated.Client"
  client : String := "ApiClient"
deriving DecidableEq, Repr, Inhabited

/-- The attempts to build a model for every schema of a document. -/
def modelAttempts (language : Language) (d : Document) : List (String × Traced Problem Model) :=
  d.schemas.entries.map fun p => (p.1, buildModel language.naming p.1 p.2)

/-- The attempts to build a signature for every operation of a document. -/
def methodAttempts (language : Language) (d : Document) :
    List (String × Traced Problem Signature) :=
  d.routes.flatMap fun route => route.operations.entries.map fun p =>
    (operationLabel p.2.verb route.path, buildSignature language.naming route.path p.2)

/-- The results of the attempts that succeeded. -/
def successes {α : Type} (attempts : List (String × Traced Problem α)) : List α :=
  attempts.filterMap fun p => p.2.outcome.toOption

/-- The issues of the attempts that failed. -/
def failures {α : Type} (attempts : List (String × Traced Problem α)) : List Issue :=
  attempts.filterMap fun p =>
    match p.2.outcome with
    | .ok _ => none
    | .error problem => some ⟨p.1, problem⟩

/-- The notices of some attempts, each failure with a notice of its own. -/
def attemptNotices {α : Type} (skipped : String → Problem → Notice)
    (attempts : List (String × Traced Problem α)) : List Notice :=
  attempts.flatMap fun p =>
    match p.2.outcome with
    | .ok _ => p.2.notices
    | .error problem => p.2.notices ++ [skipped p.1 problem]

/-- The models that are built from a document. -/
def builtModels (language : Language) (d : Document) : List Model :=
  successes (modelAttempts language d)

/-- The models of the library. -/
def models (language : Language) (d : Document) : List Model :=
  (closeModels (builtModels language d)).1

/-- The signatures that are built from a document. -/
def builtSignatures (language : Language) (d : Document) : List Signature :=
  successes (methodAttempts language d)

/-- The methods of the client. -/
def methods (language : Language) (d : Document) : List Signature :=
  resolvedMethods (models language d) (distinctMethods (builtSignatures language d))

def modelIssues (language : Language) (d : Document) : List Issue :=
  failures (modelAttempts language d) ++
    (closeModels (builtModels language d)).2.map Dropped.issue

def methodIssues (language : Language) (d : Document) : List Issue :=
  let built := builtSignatures language d
  failures (methodAttempts language d) ++
    (sharedNames built).map (collisionIssue built) ++
    unresolvedIssues (models language d) (distinctMethods built)

/-- The library of a document. -/
def generate (plan : Plan) (d : Document) : Library where
  files :=
    (models plan.language d).map (modelFile plan.language plan.namespaceName) ++
      clientFile plan.language plan.namespaceName plan.client (methods plan.language d) ::
      plan.language.supportFiles plan.namespaceName plan.client
        ((models plan.language d).map (·.name))
  issues := modelIssues plan.language d ++ methodIssues plan.language d

/-- What is reported while the library of a document is generated. -/
def notices (plan : Plan) (d : Document) : List Notice :=
  let language := plan.language
  let kept := models language d
  let built := builtSignatures language d
  let written := methods language d
  attemptNotices .modelSkipped (modelAttempts language d) ++
    (closeModels (builtModels language d)).2.map
      (fun dropped => .modelSkipped dropped.name dropped.issue.problem) ++
    kept.map (fun m => .modelWritten m.name m.fields.length) ++
    attemptNotices .operationSkipped (methodAttempts language d) ++
    (sharedNames built).map (fun name => .methodNameShared name (labelsOf name built)) ++
    (unresolvedIssues kept (distinctMethods built)).map
      (fun issue => .operationSkipped issue.entity issue.problem) ++
    [.clientWritten plan.client written.length,
     .libraryWritten kept.length written.length plan.client (generate plan d).issues.length]

end Library

end ApiStubs
