import ApiStubs.Yaml.Token

/-!
# Nodes

The tree of a document: scalars as they are written, sequences and mappings, each with its tag. An
alias is replaced by a copy of the node that it names; inside that node itself it cannot be.
-/

namespace ApiStubs

namespace Yaml

inductive Node
  | scalar (tag : Option String) (text : String) (plain : Bool)
  | sequence (tag : Option String) (items : List Node)
  | mapping (tag : Option String) (pairs : List (Node × Node))
  | cycle
deriving Repr, Inhabited

namespace Node

/-- The node of an empty place. -/
def empty : Node := .scalar none "" true

/-- What is left of the tokens, and the nodes that have a name so far; a node that is not complete
yet has none. -/
structure Remaining where
  tokens : List Token
  anchors : List (String × Option Node) := []
  handles : List (String × String) := [("!", "!"), ("!!", "tag:yaml.org,2002:")]

abbrev Parse := StateT Remaining Option

def peek : Parse (Option Token) := do
  return (← get).tokens.head?

def next : Parse Unit :=
  modify fun r => { r with tokens := r.tokens.drop 1 }

/-- Whether the next token is one of some kinds; the end of the tokens counts as given. -/
def nextIs (atEnd : Bool) (kinds : List Token) : Parse Bool := do
  match ← peek with
  | none => return atEnd
  | some t => return kinds.contains t

/-- Takes a token of one kind if it is the next one. -/
def take (kind : Token) : Parse Bool := do
  if ← nextIs false [kind] then
    next
    return true
  else return false

/-- Takes a token of one kind, which has to be the next one. -/
def expect (kind : Token) : Parse Unit := do
  if !(← take kind) then failure

/-- The text of a tag with its handle written out. -/
def fullTag (handle : Option String) (suffix : String) : Parse String := do
  match handle with
  | none => return suffix
  | some h =>
    match (← get).handles.lookup h with
    | some text => return text ++ suffix
    | none => failure

/-- An anchor and a tag, in either order. -/
def properties : Parse (Option String × Option String) := do
  match ← peek with
  | some (.anchor name) =>
    next
    match ← peek with
    | some (.tag h s) =>
      next
      return (some name, some (← fullTag h s))
    | _ => return (some name, none)
  | some (.tag h s) =>
    next
    match ← peek with
    | some (.anchor name) =>
      next
      return (some name, some (← fullTag h s))
    | _ => return (none, some (← fullTag h s))
  | _ => return (none, none)

/-- Names a node that is about to be read. No two nodes have one name. -/
def declare (anchor : Option String) : Parse Unit := do
  match anchor with
  | none => pure ()
  | some name =>
    if ((← get).anchors.lookup name).isSome then failure
    modify fun r => { r with anchors := (name, none) :: r.anchors }

/-- Keeps a complete node under its name. -/
def define (anchor : Option String) (node : Node) : Parse Node := do
  match anchor with
  | none => pure ()
  | some name => modify fun r => { r with anchors := (name, some node) :: r.anchors }
  return node

/-- The node of an empty place that has an anchor or a tag. -/
def bare (anchor tag : Option String) : Parse Node :=
  if anchor.isSome || tag.isSome then
    define anchor (.scalar tag "" (tag.isNone || tag == some "!"))
  else failure

mutual

/-- A node. Collections by indentation are read where `block` holds, and entries that are not
indented where `entries` holds. -/
def node : Nat → Bool → Bool → Parse Node
  | 0, _, _ => failure
  | n + 1, block, entries => do
    match ← peek with
    | some (.alias name) =>
      next
      match (← get).anchors.lookup name with
      | some (some node) => return node
      | some none => return .cycle
      | none => failure
    | _ =>
      let (anchor, tag) ← properties
      declare anchor
      match ← peek with
      | some (.scalar text plain) =>
        next
        define anchor (.scalar tag text plain)
      | some .flowSequenceStart =>
        next
        define anchor (.sequence tag (← flowItems n true))
      | some .flowMappingStart =>
        next
        define anchor (.mapping tag (← flowPairs n true))
      | some .blockEntry =>
        if entries then define anchor (.sequence tag (← looseItems n)) else bare anchor tag
      | some .blockSequenceStart =>
        if block then
          next
          define anchor (.sequence tag (← blockItems n))
        else bare anchor tag
      | some .blockMappingStart =>
        if block then
          next
          define anchor (.mapping tag (← blockPairs n))
        else bare anchor tag
      | _ => bare anchor tag

/-- A node, or an empty one before some kinds of tokens. -/
def nodeUnless : Nat → Bool → Bool → List Token → Parse Node
  | 0, _, _, _ => failure
  | n + 1, block, entries, kinds => do
    if ← nextIs false kinds then return empty
    else node n block entries

/-- The entries of an indented sequence. -/
def blockItems : Nat → Parse (List Node)
  | 0 => failure
  | n + 1 => do
    if ← take .blockEntry then
      let item ← nodeUnless n true false [.blockEntry, .blockEnd]
      return item :: (← blockItems n)
    else
      expect .blockEnd
      return []

/-- The entries of a sequence that is not indented. -/
def looseItems : Nat → Parse (List Node)
  | 0 => failure
  | n + 1 => do
    if ← take .blockEntry then
      let item ← nodeUnless n true false [.blockEntry, .key, .value, .blockEnd]
      return item :: (← looseItems n)
    else return []

/-- The value behind a key of an indented mapping. -/
def blockValue : Nat → Parse Node
  | 0 => failure
  | n + 1 => do
    if ← take .value then nodeUnless n true true [.key, .value, .blockEnd]
    else return empty

/-- The pairs of an indented mapping. -/
def blockPairs : Nat → Parse (List (Node × Node))
  | 0 => failure
  | n + 1 => do
    if ← take .key then
      let key ← nodeUnless n true true [.key, .value, .blockEnd]
      let value ← blockValue n
      return (key, value) :: (← blockPairs n)
    else
      expect .blockEnd
      return []

/-- The value behind a key inside brackets. -/
def flowValue : Nat → Token → Parse Node
  | 0, _ => failure
  | n + 1, closing => do
    if ← take .value then nodeUnless n false false [.flowEntry, closing]
    else return empty

/-- The items of a sequence in brackets. A pair stands for a mapping of its own. -/
def flowItems : Nat → Bool → Parse (List Node)
  | 0, _ => failure
  | n + 1, first => do
    if ← take .flowSequenceEnd then return []
    if !first then expect .flowEntry
    if ← take .key then
      let key ← nodeUnless n false false [.value, .flowEntry, .flowSequenceEnd]
      let value ← flowValue n .flowSequenceEnd
      return .mapping none [(key, value)] :: (← flowItems n false)
    if ← take .flowSequenceEnd then return []
    let item ← node n false false
    return item :: (← flowItems n false)

/-- The pairs of a mapping in braces. -/
def flowPairs : Nat → Bool → Parse (List (Node × Node))
  | 0, _ => failure
  | n + 1, first => do
    if ← take .flowMappingEnd then return []
    if !first then expect .flowEntry
    if ← take .key then
      let key ← nodeUnless n false false [.value, .flowEntry, .flowMappingEnd]
      let value ← flowValue n .flowMappingEnd
      return (key, value) :: (← flowPairs n false)
    if ← take .flowMappingEnd then return []
    let key ← node n false false
    return (key, empty) :: (← flowPairs n false)

end

/-- Directives up to the start of a document. -/
def directives : Nat → Bool → Parse Unit
  | 0, _ => failure
  | n + 1, versioned => do
    match ← peek with
    | some (.version major) =>
      if versioned || major != 1 then failure
      next
      directives n true
    | some (.tagPrefix handle text) =>
      next
      modify fun r => { r with handles := (handle, text) :: r.handles }
      directives n versioned
    | some .directive =>
      next
      directives n versioned
    | _ => expect .documentStart

/-- Marks of the end of a document. -/
def endMarks : Nat → Parse Unit
  | 0 => pure ()
  | n + 1 => do
    if ← take .documentEnd then endMarks n

/-- The node of a stream of one document, or nothing for an empty one. -/
def stream (n : Nat) : Parse (Option Node) := do
  let startsPlain ←
    match ← peek with
    | none | some .documentStart | some .directive | some (.version _) | some (.tagPrefix ..) =>
      pure false
    | some _ => pure true
  let root ←
    if startsPlain then some <$> node n true false
    else if (← peek).isNone then pure none
    else do
      directives n false
      match ← peek with
      | none | some .documentStart | some .documentEnd | some .directive | some (.version _)
      | some (.tagPrefix ..) => pure (some empty)
      | some _ => some <$> node n true false
  endMarks n
  if (← peek).isSome then failure
  return root

/-- The node of a whole document; `none` inside stands for a document without any. The bound grows
with the number of tokens, of which every step of reading takes one or passes on to one that does. -/
def ofTokens? (tokens : List Token) : Option (Option Node) :=
  (stream (2 * tokens.length + 4)).run { tokens } |>.map (·.1)

end Node

end Yaml

end ApiStubs
