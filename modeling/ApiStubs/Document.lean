import ApiStubs.Character.Case
import ApiStubs.Schema
import ApiStubs.Table

/-!
# Documents

What is known of an interface once its specification has been read: named schemas and routes with
their operations.
-/

namespace ApiStubs

inductive Verb
  | get
  | put
  | post
  | delete
  | options
  | head
  | patch
  | trace
deriving DecidableEq, Repr, Inhabited

namespace Verb

def all : List Verb :=
  [.get, .put, .post, .delete, .options, .head, .patch, .trace]

/-- A verb in small letters. -/
def label : Verb → String
  | .get => "get"
  | .put => "put"
  | .post => "post"
  | .delete => "delete"
  | .options => "options"
  | .head => "head"
  | .patch => "patch"
  | .trace => "trace"

/-- A verb in capitals. -/
def upper : Verb → String
  | .get => "GET"
  | .put => "PUT"
  | .post => "POST"
  | .delete => "DELETE"
  | .options => "OPTIONS"
  | .head => "HEAD"
  | .patch => "PATCH"
  | .trace => "TRACE"

/-- A verb with a capital at its start. -/
def canonical : Verb → String
  | .get => "Get"
  | .put => "Put"
  | .post => "Post"
  | .delete => "Delete"
  | .options => "Options"
  | .head => "Head"
  | .patch => "Patch"
  | .trace => "Trace"

/-- The verb written exactly so. -/
def ofLabel? (s : String) : Option Verb :=
  all.find? (·.label == s)

/-- The verb written so in any case. -/
def ofText? (s : String) : Option Verb :=
  ofLabel? (String.ofList (Character.lower s.toList))

end Verb

/-- A declared parameter of an operation. -/
structure Parameter where
  name : String
  location : String := "query"
  schema : Schema := {}
deriving Repr, Inhabited

/-- The schemas of a body by media type. -/
abbrev Content := Table String Schema

structure Operation where
  verb : Verb
  parameters : List Parameter := []
  requestBody : Option Content := none
  responses : Table String Content := {}
  summary : Option String := none
deriving Inhabited

/-- A path with its operations, each under the verb that it is declared for. -/
structure Route where
  path : String
  operations : Table Verb Operation := {}
deriving Inhabited

structure Document where
  title : String := "API"
  version : String := "0.0.0"
  schemas : Table String Schema := {}
  routes : List Route := []
deriving Inhabited

/-- An operation as messages name it. -/
def operationLabel (verb : Verb) (path : String) : String :=
  verb.upper ++ " " ++ path

end ApiStubs
