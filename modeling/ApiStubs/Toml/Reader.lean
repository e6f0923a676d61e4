import ApiStubs.Toml.Layout
import ApiStubs.Toml.PlainValue
import ApiStubs.Toml.StringValue

/-!
# Reading a settings file

Lines of keys and values, in tables that headers open. No key may occur twice in a table, and no
table may be opened twice.
-/

namespace ApiStubs

namespace Toml

/-- What a path leads to. Of arrays, inline tables and times no more is kept than that they are
there. -/
inductive Item
  | scalar (s : Scalar)
  | other
  | table
  | tables (count : Nat)
deriving Repr, Inhabited

/-- The items read so far by path, the path of the open table, and the names of the tables that
only the headers of inner tables have opened. -/
structure Page where
  items : List (List String × Item) := []
  current : List String := []
  implicit : List String := []
deriving Repr, Inhabited

namespace Page

def at? (p : Page) (path : List String) : Option Item :=
  p.items.lookup path

def add (p : Page) (path : List String) (item : Item) : Page :=
  { p with items := p.items.filter (·.1 ≠ path) ++ [(path, item)] }

end Page

/-- The pieces between the occurrences of a character outside strings. -/
def splitOutside (sep : Char) : Option Char → List Char → List (List Char)
  | _, [] => [[]]
  | quote, c :: cs =>
    if quote.isNone ∧ c = sep then [] :: splitOutside sep none cs
    else
      let quote :=
        if quote = some c then none
        else if quote.isNone ∧ (c = '"' ∨ c = '\'') then some c
        else quote
      match splitOutside sep quote cs with
      | [] => [[c]]
      | w :: ws => (c :: w) :: ws

def trim (cs : List Char) : List Char :=
  Text.trimWhile Character.isBlank cs

/-- Whether a text is between two equal quotation marks. -/
def isQuoted (cs : List Char) : Bool :=
  2 ≤ cs.length && cs.head? == cs.getLast? && (cs.head? == some '"' || cs.head? == some '\'')

/-- A name in a header: letters, digits, dashes and underscores, or anything between quotation
marks. -/
def headerName? (cs : List Char) : Option String :=
  let cs := trim cs
  let name := if isQuoted cs then some (inside 1 cs)
    else if cs.all fun c => c.isAlphanum || c == '_' || c == '-' then some cs
    else none
  name.bind fun n => if n.isEmpty then none else some (String.ofList n)

/-- The names in a key. -/
def keyNames (cs : List Char) : List String :=
  let parts := splitOutside '.' none cs
  let names := parts.map fun part =>
    let part := trim part
    if isQuoted part then inside 1 part else part
  let names := if parts.length = 1 then names
    else (names.reverse.dropWhile List.isEmpty).reverse
  (names.dropLast.filter (!·.isEmpty) ++ names.getLast?.toList).map String.ofList

/-- Opens the tables that a header names, one inside the other. -/
def openTables? (p : Page) (here : List String) : List String → Option Page
  | [] => some { p with current := here }
  | [name] =>
    let path := here ++ [name]
    match p.at? path with
    | none => some { p.add path .table with current := path }
    | some _ =>
      if p.implicit.contains name then
        some { p with implicit := p.implicit.erase name, current := path }
      else none
  | name :: rest =>
    let path := here ++ [name]
    match p.at? path with
    | none => openTables? { p.add path .table with implicit := p.implicit ++ [name] } path rest
    | some .table => openTables? p path rest
    | some (.tables n) => openTables? p (path ++ [toString n]) rest
    | some _ => none

/-- Opens one more table of a list of tables. -/
def openListed? (p : Page) (names : List String) : Option Page :=
  match p.at? names with
  | none => some { p.add names (.tables 1) with current := names ++ ["1"] }
  | some (.tables n) =>
    some { p.add names (.tables (n + 1)) with current := names ++ [toString (n + 1)] }
  | some _ => none

/-- Reads a header. Nothing may stand behind its bracket. -/
def readHeader? (p : Page) (line : List Char) : Option Page :=
  let listed : Bool := line.take 2 = ['[', '[']
  let body := if listed then line.drop 2 else line.drop 1
  match splitOutside ']' none body with
  | name :: rest =>
    let behind := if listed then rest.drop 1 else rest
    let closed := if listed then rest.head? == some [] && rest.length == 2 else rest.length == 1
    if closed && behind.all fun r => (trim r).isEmpty then do
      let names ← (splitOutside '.' none name).mapM headerName?
      if listed then openListed? p names else openTables? p [] names
    else none
  | [] => none

/-- Reads a value without blanks at its ends. -/
def readValue? (cs : List Char) : Option Item :=
  match cs with
  | [] => none
  | c :: _ =>
    if c = '"' ∨ c = '\'' then (readString? c cs).map fun s => .scalar (.text s)
    else if c = '[' then if cs.getLast? = some ']' then some .other else none
    else if c = '\x7b' then if cs.getLast? = some '\x7d' then some .other else none
    else if cs = "true".toList then some (.scalar (.bool true))
    else if cs = "false".toList then some (.scalar (.bool false))
    else if isTime cs ∨ isMoment cs then some .other
    else
      match Number.date? cs with
      | some d => some (.scalar d)
      | none => (number? cs).map .scalar

/-- Whether a text may follow an equals sign at once. Behind a blank everything may. -/
def mayFollow (cs : List Char) : Bool :=
  match cs with
  | [] => true
  | c :: _ =>
    c == ' ' || c == '\t' || c == '\'' || c == '"' || c == '[' || c == '\x7b' ||
      trim cs = "true".toList || trim cs = "false".toList || (Number.date? cs).isSome ||
      isMoment cs || isTime cs || isDecimal (unsigned (cs.filter (· ≠ '_'))).2
where
  isDecimal (cs : List Char) : Bool :=
    (magnitude?.inBase? 10 cs).isSome || (real? false cs).isSome

/-- The key and the value of a line; `pieces` are the parts between equals signs. A piece that
cannot be a value belongs to the key. -/
def keyAndValue? (key : List Char) : List (List Char) → Option (List Char × List Char)
  | [] => none
  | [value] => if mayFollow value then some (key, value) else none
  | value :: next :: rest =>
    let whole := value ++ '=' :: (next :: rest).flatMap fun r => r ++ ['=']
    if mayFollow whole.dropLast then some (key, whole.dropLast)
    else keyAndValue? (key ++ '=' :: value) (next :: rest)

/-- Makes the tables above a key. -/
def makeTables? (p : Page) (here : List String) : List String → Option (Page × List String)
  | [] => none
  | [name] => some (p, here ++ [name])
  | name :: rest =>
    let path := here ++ [name]
    match p.at? path with
    | none => makeTables? (p.add path .table) path rest
    | some .table => makeTables? p path rest
    | some _ => none

/-- Reads a line with a key and a value. -/
def readPair? (p : Page) (line : List Char) : Option Page := do
  match splitOutside '=' none line with
  | key :: rest =>
    let written := rest.flatMap fun r => '=' :: r
    let (key, value) ← keyAndValue? key (Text.splitOn '=' (written.drop 1))
    let item ← readValue? (trim value)
    let (p, path) ← makeTables? p p.current (keyNames (trim key))
    if (p.at? path).isSome then none else some (p.add path item)
  | [] => none

/-- Reads one line. -/
def readLine? (p : Page) (line : List Char) : Option Page :=
  let line := trim line
  match line with
  | [] => some p
  | '[' :: _ => readHeader? p line
  | _ => if line.contains '=' then readPair? p line else some p

/-- What a file says about the keys outside all tables. -/
def read? (s : String) : Option (List (String × Item)) := do
  let lines := Text.splitOn '\n' (← cleanText? s)
  let p ← lines.foldlM readLine? {}
  some (p.items.filterMap fun i =>
    match i.1 with
    | [name] => some (name, i.2)
    | _ => none)

end Toml

end ApiStubs
