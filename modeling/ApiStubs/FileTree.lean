import ApiStubs.Text.Order
import ApiStubs.Text.Split

/-!
# File trees

A file system with its working directory. Paths are texts with slashes; a step `..` leads to the
directory above, and every step on the way has to be a directory.
-/

namespace ApiStubs

/-- Why an operation on files fails. -/
inductive FileFailure
  | missing
  | isDirectory
  | notDirectory
  | alreadyExists
deriving DecidableEq, Repr, Inhabited

/-- What stands at a place. -/
inductive Entry
  | file (content : List UInt8)
  | directory
deriving DecidableEq, Repr, Inhabited

/-- The names on the way from the top of a file system. -/
abbrev Place := List String

/-- The places of a file system where something stands, and the working directory. -/
structure FileTree where
  home : Place := []
  entries : List (Place × Entry) := []
deriving Repr, Inhabited

namespace FileTree

/-- What stands at a place. The working directory and those above it are always there. -/
def at? (t : FileTree) (place : Place) : Option Entry :=
  if place.isPrefixOf t.home then some .directory else t.entries.lookup place

/-- Puts an entry at a place. -/
def putAt (t : FileTree) (place : Place) (e : Entry) : FileTree :=
  { t with entries := (place, e) :: t.entries.filter (·.1 ≠ place) }

/-- The steps of a path. -/
def steps (path : String) : List String :=
  (Text.splitOn '/' path.toList).map String.ofList

/-- The place that steps lead to from a place. Every place that a step starts from has to be a
directory. -/
def walk (t : FileTree) : Place → List String → Except FileFailure Place
  | here, [] => .ok here
  | here, step :: rest =>
    match t.at? here with
    | none => .error .missing
    | some (.file _) => .error .notDirectory
    | some .directory =>
      if step = "" ∨ step = "." then walk t here rest
      else if step = ".." then walk t here.dropLast rest
      else walk t (here ++ [step]) rest

/-- Whether a path starts at the top of the file system. -/
def isRooted (path : String) : Bool :=
  path.toList.head? == some '/'

/-- Whether a path can name a directory only. -/
def endsInSlash (path : String) : Bool :=
  path.toList.getLast? == some '/'

/-- A path without the slashes at its end; one of slashes alone stays as it is. -/
def trimmed (path : String) : String :=
  match path.toList.reverse.dropWhile (· = '/') with
  | [] => path
  | cs => String.ofList cs.reverse

/-- The place from which a path starts. -/
def start (t : FileTree) (path : String) : Place :=
  if isRooted path then [] else t.home

/-- The place of a path. An empty path has none. -/
def locate (t : FileTree) (path : String) : Except FileFailure Place :=
  if path = "" then .error .missing else walk t (t.start path) (steps path)

/-- What stands at a path. -/
def find (t : FileTree) (path : String) : Except FileFailure Entry := do
  match t.at? (← t.locate path) with
  | some e => .ok e
  | none => .error .missing

def pathExists (t : FileTree) (path : String) : Bool :=
  match t.find path with
  | .ok _ => true
  | .error _ => false

def isDirectory (t : FileTree) (path : String) : Bool :=
  match t.find path with
  | .ok .directory => true
  | _ => false

/-- The content of the file at a path. -/
def read (t : FileTree) (path : String) : Except FileFailure (List UInt8) := do
  match ← t.find path with
  | .file content => .ok content
  | .directory => .error .isDirectory

/-- Writes a file; its directory has to be there. -/
def write (t : FileTree) (path : String) (content : List UInt8) : Except FileFailure FileTree := do
  let place ← t.locate (trimmed path)
  match t.at? place with
  | some .directory => .error .isDirectory
  | _ => if endsInSlash path then .error .isDirectory else .ok (t.putAt place (.file content))

/-- Makes one directory. -/
def makeDirectory (t : FileTree) (path : String) : Except FileFailure FileTree := do
  let place ← t.locate (trimmed path)
  match t.at? place with
  | some _ => .error .alreadyExists
  | none => .ok (t.putAt place .directory)

/-- A path without its last step, and that step. Slashes at the end of the first part go, unless
there is nothing else. -/
def splitLast (path : String) : String × String :=
  let cs := path.toList.reverse
  let last := (cs.takeWhile (· ≠ '/')).reverse
  let rest := cs.dropWhile (· ≠ '/')
  let trimmed := rest.dropWhile (· = '/')
  (String.ofList (if trimmed.isEmpty then rest.reverse else trimmed.reverse), String.ofList last)

/-- Makes a directory and those above it, at most `n` levels; a directory that is there is fine. -/
def makeDirectoriesUpTo : Nat → FileTree → String → Except FileFailure FileTree
  | 0, t, _ => .ok t
  | n + 1, t, path => do
    let (head, last) := splitLast path
    let (head, last) := if last = "" then splitLast head else (head, last)
    let above : Bool := head ≠ "" ∧ last ≠ "" ∧ !t.pathExists head
    let t ←
      if above then
        match makeDirectoriesUpTo n t head with
        | .error .alreadyExists => .ok t
        | result => result
      else .ok t
    if above ∧ last = "." then .ok t
    else
      match t.makeDirectory path with
      | .ok t => .ok t
      | .error e => if t.isDirectory path then .ok t else .error e

/-- Makes a directory and those above it. -/
def makeDirectories (t : FileTree) (path : String) : Except FileFailure FileTree :=
  makeDirectoriesUpTo (path.length + 1) t path

/-- A path below a directory. -/
def join (directory name : String) : String :=
  if isRooted name then name
  else if directory = "" ∨ endsInSlash directory then directory ++ name
  else directory ++ "/" ++ name

/-- The steps of a path with all detours removed. -/
def normalSteps : Place → List String → Place
  | here, [] => here
  | here, step :: rest =>
    if step = "" ∨ step = "." then normalSteps here rest
    else if step = ".." then normalSteps here.dropLast rest
    else normalSteps (here ++ [step]) rest

/-- The path of a place from the top of the file system. -/
def pathOf (place : Place) : String :=
  "/" ++ Text.joinWith "/" place

/-- A path from the top of the file system without detours. -/
def absolute (t : FileTree) (path : String) : String :=
  pathOf (normalSteps (t.start path) (steps path))

/-- The files of a tree with their places. -/
def files (t : FileTree) : List (Place × List UInt8) :=
  t.entries.filterMap fun p =>
    match p.2 with
    | .file content => some (p.1, content)
    | .directory => none

/-- The files that are new or have another content than before, in the order of their paths. -/
def changesSince (t before : FileTree) : List (Place × List UInt8) :=
  (t.files.filter fun f => before.files.lookup f.1 ≠ some f.2).mergeSort
    fun a b => decide (pathOf a.1 ≤ pathOf b.1)

end FileTree

end ApiStubs
