import ApiStubs.Failure
import ApiStubs.FileTree
import ApiStubs.Notice
import ApiStubs.Text.Encoding
import ApiStubs.Traced

/-!
# Desks

What a run works on: files, the pages of remote hosts, the lines it has printed and the notices it
has written. All of that stays as it is when a run fails.
-/

namespace ApiStubs

/-- What a remote host answers for an address. -/
structure Page where
  text : String
  status : Nat := 200
  contentType : String := ""
deriving DecidableEq, Repr, Inhabited

/-- Whether an answer holds what was asked for. -/
def Page.isSuccess (p : Page) : Bool :=
  200 ≤ p.status && p.status < 300

structure Desk where
  files : FileTree := {}
  pages : List (String × Page) := []
  printed : List String := []
  notices : List Notice := []
deriving Inhabited

/-- A computation at a desk that ends in a result or a failure. -/
abbrev Job := ExceptT Failure (StateM Desk)

namespace Job

/-- The files as they are. -/
def files : Job FileTree := do
  return (← get).files

/-- Prints a line. -/
def say (line : String) : Job Unit :=
  modify fun d => { d with printed := d.printed ++ [line] }

/-- Writes notices. -/
def note (notices : List Notice) : Job Unit :=
  modify fun d => { d with notices := d.notices ++ notices }

/-- Takes over the notices and the outcome of a traced computation. -/
def traced {α : Type} (x : Traced Failure α) : Job α := do
  note x.notices
  match x.outcome with
  | .ok a => pure a
  | .error f => throw f

/-- Takes over the outcome of an operation on files. -/
def filed {α : Type} (x : Except FileFailure α) : Job α :=
  match x with
  | .ok a => pure a
  | .error f => throw (.files f)

/-- The text of a file. -/
def readText (path : String) : Job String := do
  match Text.decode? (← filed ((← files).read path)) with
  | some s => pure (String.ofList (Text.plainBreaks s.toList))
  | none => throw .notText

/-- Takes over the files that an operation leaves. -/
def change (f : FileTree → Except FileFailure FileTree) : Job Unit := do
  let t ← filed (f (← files))
  modify fun d => { d with files := t }

/-- Writes a text to a file. -/
def writeText (path text : String) : Job Unit :=
  change fun t => t.write path (Text.encode text)

end Job

end ApiStubs
