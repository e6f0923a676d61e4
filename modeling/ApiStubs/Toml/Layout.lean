import ApiStubs.Character.Class

/-!
# Layout of a settings file

A first pass over a file checks that every line starts with a key and an equals sign, that quotation
marks are balanced, and turns comments into blanks. Lines inside brackets are joined.
-/

namespace ApiStubs

namespace Toml

/-- Where a key has been reached. -/
inductive KeyState
  | none
  | inside
  | behind
deriving DecidableEq, Repr, Inhabited

structure Layout where
  key : KeyState := .none
  dotted : Bool := false
  quote : Option Char := .none
  tripled : Bool := false
  lineStart : Bool := true
  header : Bool := false
  tables : Bool := false
  brackets : Int := 0
deriving Repr, Inhabited

namespace Layout

/-- What a character of a key leads to, if the key goes on with it. -/
def keyStep? (l : Layout) (before : List Char) (c : Char) (after : List Char) : Option Layout :=
  let resumes (next : Option Char) : Bool :=
    match next with
    | some x => !Character.isBlank x && x != '.'
    | none => false
  match l.quote, l.key with
  | some mark, _ =>
    let escaped := (before.takeWhile (· = '\\')).length % 2 = 1
    if c = mark ∧ !escaped then some { l with key := .behind, quote := .none } else some l
  | .none, .inside =>
    if Character.isBlank c then some { l with key := .behind }
    else if c = '.' then some { l with dotted := true }
    else if Character.isAlphanumeric c || c == '_' || c == '-' then some l
    else if l.dotted && before.head? == some '.' && (c == '"' || c == '\'') then
      some { l with quote := some c }
    else .none
  | .none, .behind =>
    if Character.isBlank c then
      some (if l.dotted && resumes after.head? then { l with key := .inside } else l)
    else if c = '.' then
      some { l with dotted := true, key := if resumes after.head? then .inside else .behind }
    else .none
  | .none, .none => .none

/-- What a quotation mark does to the string around it. Three in a row count as one of their own. -/
def quoteStep (l : Layout) (before : List Char) (c : Char) : Layout :=
  if (c = '\'' ∧ l.quote ≠ some '"') ∨ (c = '"' ∧ l.quote ≠ some '\'') then
    let row := min 2 (before.takeWhile (· = c)).length
    let escapes := ((before.drop row).takeWhile (· = '\\')).length
    if c = '"' ∧ row ≠ 1 ∧ escapes % 2 = 1 then l
    else
      let opened := if row = 2 then !l.tripled else l.quote.isNone
      { l with
        quote := if opened then some c else .none
        tripled := if row = 2 then !l.tripled else l.tripled }
  else l

/-- What a bracket does outside strings. -/
def bracketStep (l : Layout) (before : List Char) (c : Char) (after : List Char) : Layout :=
  if l.quote.isSome then l
  else if c = '[' ∧ !l.header ∧ !l.tables then
    if l.lineStart then
      if after.head? = some '[' then { l with tables := true } else { l with header := true }
    else { l with brackets := l.brackets + 1 }
  else if c = ']' then
    if l.header then { l with header := false }
    else if l.tables then
      if before.head? = some ']' then { l with tables := false } else l
    else { l with brackets := l.brackets - 1 }
  else l

/-- The layout behind a line. -/
def newLine (l : Layout) : Layout × Char :=
  if l.brackets ≠ 0 then (l, ' ') else ({ l with lineStart := true }, '\n')

/-- Goes over what is left of a file, of which `before` has been written, last character first;
`comment` says that a comment has started. -/
def clean? (l : Layout) (comment : Bool) (before : List Char) : List Char → Option (List Char)
  | [] => if l.key ≠ .none || l.quote.isSome then none else some before.reverse
  | c :: after =>
    if comment && c ≠ '\n' then clean? l true (' ' :: before) after
    else if l.key ≠ .none then
      if c = '\n' then none
      else
        match l.keyStep? before c after with
        | some l => clean? l false (c :: before) after
        | none =>
          if c = '=' then clean? { l with key := .none, dotted := false } false (c :: before) after
          else none
    else
      let l := l.quoteStep before c
      if c = '#' ∧ l.quote.isNone ∧ !l.header ∧ !l.tables then
        clean? l true (' ' :: before) after
      else
        let l := l.bracketStep before c after
        if c = '\n' then
          if l.quote.isSome || l.tripled then none
          else
            let (l, written) := l.newLine
            clean? l false (written :: before) after
        else if l.lineStart && c ≠ ' ' && c ≠ '\t' then
          let l := { l with lineStart := false }
          if l.header || l.tables then clean? l false (c :: before) after
          else if c = '=' then none
          else clean? { l with key := .inside } false (c :: before) after
        else clean? l false (c :: before) after

end Layout

/-- The lines of a file without its comments, if its layout is sound. -/
def cleanText? (s : String) : Option (List Char) :=
  Layout.clean? {} false [] s.toList

end Toml

end ApiStubs
