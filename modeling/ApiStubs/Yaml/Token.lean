import ApiStubs.Yaml.Scalar

/-!
# Tokens

A document as a list of tokens. Indentation shows in tokens of its own, and a key is announced by a
token in front of it, which is put there when the colon behind the key is found.
-/

namespace ApiStubs

namespace Yaml

inductive Token
  | version (major : Nat)
  | tagPrefix (handle text : String)
  | directive
  | documentStart
  | documentEnd
  | blockSequenceStart
  | blockMappingStart
  | blockEnd
  | flowSequenceStart
  | flowSequenceEnd
  | flowMappingStart
  | flowMappingEnd
  | blockEntry
  | flowEntry
  | key
  | value
  | alias (name : String)
  | anchor (name : String)
  | tag (handle : Option String) (suffix : String)
  | scalar (text : String) (plain : Bool)
deriving DecidableEq, Repr, Inhabited

namespace Token

/-- A place at which a key may turn out to have started. -/
structure PossibleKey where
  position : Nat
  required : Bool
  index : Nat
  line : Nat
  column : Nat

/-- How far a document has been cut into tokens. The possible keys are kept by the number of
brackets around them. -/
structure Progress where
  cursor : Cursor
  tokens : Array Token := #[]
  flowLevel : Nat := 0
  indent : Int := -1
  outer : List Int := []
  keyAllowed : Bool := true
  keys : List (Nat × PossibleKey) := []

namespace Progress

def emit (p : Progress) (t : Token) : Progress :=
  { p with tokens := p.tokens.push t }

/-- Emits a token of some characters that are read past. -/
def emitBy (p : Progress) (width : Nat) (t : Token) : Progress :=
  { p with tokens := p.tokens.push t, cursor := p.cursor.advanceBy width }

def insert (p : Progress) (position : Nat) (t : Token) : Progress :=
  { p with tokens := (p.tokens.extract 0 position).push t ++
      p.tokens.extract position p.tokens.size }

/-- Gives up the possible keys that lie on an earlier line or too far back. A required one must not
be given up. -/
def dropStale (p : Progress) : Option Progress :=
  let stale (k : PossibleKey) : Bool :=
    k.line != p.cursor.line || 1024 < p.cursor.index - k.index
  if p.keys.any fun k => stale k.2 && k.2.required then none
  else some { p with keys := p.keys.filter fun k => !stale k.2 }

/-- Gives up the possible key at the present level. -/
def dropKey (p : Progress) : Option Progress :=
  match p.keys.lookup p.flowLevel with
  | some k =>
    if k.required then none
    else some { p with keys := p.keys.filter fun k => k.1 != p.flowLevel }
  | none => some p

/-- Marks the place of the next token as a possible key. -/
def saveKey (p : Progress) : Option Progress :=
  if p.keyAllowed then do
    let required := p.flowLevel == 0 && p.indent == p.cursor.column
    let p ← p.dropKey
    some { p with keys := (p.flowLevel, ⟨p.tokens.size, required, p.cursor.index, p.cursor.line,
      p.cursor.column⟩) :: p.keys }
  else some p

/-- Closes the blocks that are indented further than a column. -/
def unwindTo (column : Int) : List Int → Progress → Progress
  | [], p => p
  | above :: rest, p =>
    if column < p.indent then
      unwindTo column rest { p.emit .blockEnd with indent := above, outer := rest }
    else p

def unwind (p : Progress) (column : Int) : Progress :=
  if p.flowLevel = 0 then unwindTo column p.outer p else p

/-- Opens a block at a column if it is indented further than the present one. -/
def indentTo (p : Progress) (column : Nat) : Bool × Progress :=
  if p.indent < column then (true, { p with outer := p.indent :: p.outer, indent := column })
  else (false, p)

/-- Skips spaces, comments and line breaks. Outside brackets a new line may start with a key. -/
def skipFrom : Nat → Progress → Progress
  | 0, p => p
  | n + 1, p =>
    let c := (p.cursor.skipWhile (· == ' ')).skipComment
    match c.lineBreak? with
    | some (_, c) =>
      skipFrom n { p with cursor := c, keyAllowed := p.keyAllowed || p.flowLevel == 0 }
    | none => { p with cursor := c }

def skip (p : Progress) : Progress :=
  let c := p.cursor
  let p := if c.index == 0 && c.peek == '\uFEFF' then { p with cursor := c.advance } else p
  skipFrom (p.cursor.rest.length + 1) p

/-- Ends all blocks and keys, as the marks of documents and directives do. -/
def reset (p : Progress) : Option Progress := do
  let p ← (p.unwind (-1)).dropKey
  some { p with keyAllowed := false }

/-- The numbers of a version, of which the first one counts. -/
def version? (c : Cursor) : Option (Nat × Cursor) :=
  let number (c : Cursor) : Option (Nat × Cursor) :=
    let digits := c.rest.takeWhile Char.isDigit
    if digits.isEmpty then none
    else some ((digits.foldl (fun n d => n * 10 + (d.toNat - 48)) 0), c.advanceBy digits.length)
  do
    let (major, c) ← number (c.skipWhile (· == ' '))
    if c.peek != '.' then none
    let (_, c) ← number c.advance
    if isSpaceOrEnd c.peek then some (major, c) else none

/-- The handle of a tag: an exclamation mark, or a name between two. -/
def handle? (c : Cursor) : Option (String × Cursor) :=
  if c.peek != '!' then none
  else
    let name := c.advance.rest.takeWhile isNameChar
    let behind := c.advance.advanceBy name.length
    if c.peekAt 1 == ' ' then some ("!", c.advance)
    else if behind.peek != '!' then none
    else some (String.ofList ('!' :: name ++ ['!']), behind.advance)

/-- A character of the text of a tag. -/
def isTagChar (c : Char) : Bool :=
  isNameChar c || ";/?:@&=+$,.!~*'()[]%".toList.contains c

def tagText? (c : Cursor) : Option (String × Cursor) :=
  let text := c.rest.takeWhile isTagChar
  if text.isEmpty then none else some (String.ofList text, c.advanceBy text.length)

def fetchDirective (p : Progress) : Option Progress := do
  let p ← p.reset
  let c := p.cursor.advance
  let name := c.rest.takeWhile isNameChar
  let c := c.advanceBy name.length
  if name.isEmpty || !isSpaceOrEnd c.peek then none
  let (token, c) ←
    if name = "YAML".toList then
      (version? c).map fun r => (Token.version r.1, r.2)
    else if name = "TAG".toList then do
      let (handle, c) ← handle? (c.skipWhile (· == ' '))
      if c.peek != ' ' then none
      let (text, c) ← tagText? (c.skipWhile (· == ' '))
      if isSpaceOrEnd c.peek then some (Token.tagPrefix handle text, c) else none
    else some (Token.directive, c.skipWhile (!isBreakOrEnd ·))
  let c ← c.endLine?
  some ({ p with cursor := c }.emit token)

def fetchMark (p : Progress) (t : Token) : Option Progress := do
  let p ← p.reset
  some (p.emitBy 3 t)

def fetchOpening (p : Progress) (t : Token) : Option Progress := do
  let p ← p.saveKey
  some ({ p with flowLevel := p.flowLevel + 1, keyAllowed := true }.emitBy 1 t)

/-- A closing bracket that was never opened makes the document broken. -/
def fetchClosing (p : Progress) (t : Token) : Option Progress := do
  let p ← p.dropKey
  if p.flowLevel = 0 then none
  else some ({ p with flowLevel := p.flowLevel - 1, keyAllowed := false }.emitBy 1 t)

def fetchFlowEntry (p : Progress) : Option Progress := do
  let p ← { p with keyAllowed := true }.dropKey
  some (p.emitBy 1 .flowEntry)

/-- Opens a block at the cursor, outside brackets, where a key is allowed. -/
def openBlock (p : Progress) (t : Token) : Option Progress :=
  if p.flowLevel = 0 then
    if p.keyAllowed then
      let (opened, p) := p.indentTo p.cursor.column
      some (if opened then p.emit t else p)
    else none
  else some p

def fetchBlockEntry (p : Progress) : Option Progress := do
  let p ← p.openBlock .blockSequenceStart
  let p ← { p with keyAllowed := true }.dropKey
  some (p.emitBy 1 .blockEntry)

def fetchKey (p : Progress) : Option Progress := do
  let p ← p.openBlock .blockMappingStart
  let p ← { p with keyAllowed := p.flowLevel == 0 }.dropKey
  some (p.emitBy 1 .key)

/-- A colon. If a possible key lies before it on this level, that is one. -/
def fetchValue (p : Progress) : Option Progress := do
  match p.keys.lookup p.flowLevel with
  | some k =>
    let p := { p with keys := p.keys.filter fun k => k.1 != p.flowLevel }.insert k.position .key
    let p :=
      if p.flowLevel = 0 then
        let (opened, p) := p.indentTo k.column
        if opened then p.insert k.position .blockMappingStart else p
      else p
    some ({ p with keyAllowed := false }.emitBy 1 .value)
  | none =>
    let p ← p.openBlock .blockMappingStart
    let p ← { p with keyAllowed := p.flowLevel == 0 }.dropKey
    some (p.emitBy 1 .value)

/-- The name behind an ampersand or an asterisk. -/
def fetchName (p : Progress) (token : String → Token) : Option Progress := do
  let p ← p.saveKey
  let c := p.cursor.advance
  let name := c.rest.takeWhile isNameChar
  let c := c.advanceBy name.length
  if name.isEmpty || !(isBlankOrEnd c.peek || "?:,]\x7d%@\x60".toList.contains c.peek) then none
  some ({ p with cursor := c, keyAllowed := false }.emit (token (String.ofList name)))

/-- A tag as it is written, and the cursor behind it. -/
def tag? (c : Cursor) : Option (Token × Cursor) := do
  if c.peekAt 1 == '<' then
    let (text, c) ← tagText? (c.advanceBy 2)
    if c.peek != '>' then none
    some (.tag none text, c.advance)
  else if isBlankOrEnd (c.peekAt 1) then some (.tag none "!", c.advance)
  else
    let word := c.advance.rest.takeWhile (!isSpaceOrEnd ·)
    let (handle, c) ← if word.contains '!' then handle? c else some ("!", c.advance)
    let (text, c) ← tagText? c
    some (.tag (some handle) text, c)

def fetchTag (p : Progress) : Option Progress := do
  let p ← p.saveKey
  let (token, c) ← tag? p.cursor
  if !isSpaceOrEnd c.peek then none
  some ({ p with cursor := c, keyAllowed := false }.emit token)

def fetchBlockScalar (p : Progress) (fold : Bool) : Option Progress := do
  let p ← { p with keyAllowed := true }.dropKey
  let (text, c) ← blockScalar? fold p.indent p.cursor
  some ({ p with cursor := c }.emit (.scalar text false))

def fetchQuoted (p : Progress) (double : Bool) : Option Progress := do
  let p ← p.saveKey
  let (text, c) ← quotedScalar? double p.cursor
  some ({ p with cursor := c, keyAllowed := false }.emit (.scalar text false))

def fetchPlain (p : Progress) : Option Progress := do
  let p ← p.saveKey
  let (text, c, fresh) := plainScalar (p.flowLevel != 0) (p.indent + 1) p.cursor
  some ({ p with cursor := c, keyAllowed := fresh }.emit (.scalar text true))

/-- Whether a plain scalar may start at the cursor. -/
def plainStarts (p : Progress) : Bool :=
  let c := p.cursor.peek
  !(isBlankOrEnd c || "-?:,[]\x7b\x7d#&*!|>'\"%@\x60".toList.contains c) ||
    (!isBlankOrEnd (p.cursor.peekAt 1) && (c == '-' || (p.flowLevel == 0 && (c == '?' || c == ':'))))

/-- Reads the next token, which starts at the cursor. -/
def fetch (p : Progress) : Option Progress :=
  let c := p.cursor
  let block := p.flowLevel == 0
  let spaced := isBlankOrEnd (c.peekAt 1)
  match c.peek with
  | '%' => if c.column == 0 then p.fetchDirective else none
  | '[' => p.fetchOpening .flowSequenceStart
  | '\x7b' => p.fetchOpening .flowMappingStart
  | ']' => p.fetchClosing .flowSequenceEnd
  | '\x7d' => p.fetchClosing .flowMappingEnd
  | ',' => p.fetchFlowEntry
  | '*' => p.fetchName .alias
  | '&' => p.fetchName .anchor
  | '!' => p.fetchTag
  | '\'' => p.fetchQuoted false
  | '"' => p.fetchQuoted true
  | x =>
    if c.column == 0 && c.atMark '-' then p.fetchMark .documentStart
    else if c.column == 0 && c.atMark '.' then p.fetchMark .documentEnd
    else if x == '-' && spaced then p.fetchBlockEntry
    else if x == '?' && (!block || spaced) then p.fetchKey
    else if x == ':' && (!block || spaced) then p.fetchValue
    else if x == '|' && block then p.fetchBlockScalar false
    else if x == '>' && block then p.fetchBlockScalar true
    else if p.plainStarts then p.fetchPlain
    else none

/-- Reads tokens up to the end; every token but the closing ones uses up a character. -/
def run : Nat → Progress → Option Progress
  | 0, _ => none
  | n + 1, p => do
    let p ← p.skip.dropStale
    let p := p.unwind p.cursor.column
    if p.cursor.atEnd then
      (p.unwind (-1)).dropKey
    else
      match p.fetch with
      | some p => run n p
      | none => none

end Progress

/-- The tokens of a text. -/
def ofText? (s : String) : Option (List Token) :=
  let cs := s.toList
  if cs.all isAllowed then
    (Progress.run (cs.length + 1) { cursor := { rest := cs } }).map (·.tokens.toList)
  else none

end Token

end Yaml

end ApiStubs
