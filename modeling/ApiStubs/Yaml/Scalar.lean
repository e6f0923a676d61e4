import ApiStubs.Text.Hex
import ApiStubs.Yaml.Cursor

/-!
# Written scalars

The texts of scalars as they are written in a document: plain, between quotation marks, and as
blocks of lines. Every reader returns the text and the cursor behind it. Readers that go on from
line to line take the number of characters that are left as a bound.
-/

namespace ApiStubs

namespace Yaml

open Cursor

/-- The characters that end a plain scalar inside brackets. -/
def isFlowMark (c : Char) : Bool :=
  c == ',' || c == '[' || c == ']' || c == '\x7b' || c == '\x7d'

/-- The length of a stretch of a plain scalar without blanks. -/
def plainLength (flow : Bool) : List Char → Nat
  | [] => 0
  | c :: cs =>
    let next := cs.head?.getD '\x00'
    if isBlankOrEnd c || (c == ':' && (isBlankOrEnd next || (flow && isFlowMark next))) ||
        (flow && (isFlowMark c || c == '?')) then 0
    else plainLength flow cs + 1

/-- Line breaks and the spaces before them; nothing if a document mark stands on one of the lines. -/
def plainBreaks : Nat → List Char → Cursor → Option (List Char) × Cursor
  | 0, breaks, c => (some breaks.reverse, c)
  | n + 1, breaks, c =>
    if c.peek == ' ' then plainBreaks n breaks c.advance
    else
      match c.lineBreak? with
      | none => (some breaks.reverse, c)
      | some (b, c) => if c.atDocumentMark then (none, c) else plainBreaks n (b :: breaks) c

/-- The breaks that are left of a line break and those after it. A single one becomes a space. -/
def folded (first : Char) (breaks : List Char) : List Char :=
  if first ≠ '\n' then first :: breaks else if breaks.isEmpty then [' '] else breaks

/-- What lies between two stretches of a plain scalar, and whether it holds a line break. Nothing is
left of it if the scalar ends here. -/
def plainGap (c : Cursor) : List Char × Cursor × Bool :=
  let spaces := c.rest.takeWhile (· == ' ')
  let c := c.advanceBy spaces.length
  match c.lineBreak? with
  | none => (spaces, c, false)
  | some (first, c) =>
    if c.atDocumentMark then ([], c, true)
    else
      match plainBreaks (c.rest.length + 1) [] c with
      | (none, c) => ([], c, true)
      | (some breaks, c) => (folded first breaks, c, true)

/-- A plain scalar from a stretch on, with the text before it in reverse. The last component says
whether the scalar was left on a new line. -/
def plainFrom (flow : Bool) (indent : Int) :
    Nat → List Char → List Char → Bool → Cursor → List Char × Cursor × Bool
  | 0, read, _, fresh, c => (read.reverse, c, fresh)
  | n + 1, read, gap, fresh, c =>
    let length := plainLength flow c.rest
    if c.peek == '#' || length == 0 then (read.reverse, c, fresh)
    else
      let read := (c.rest.take length).reverse ++ (gap.reverse ++ read)
      let (gap, c, fresh) := plainGap (c.advanceBy length)
      if gap.isEmpty || c.peek == '#' || (!flow && (c.column : Int) < indent) then
        (read.reverse, c, fresh)
      else plainFrom flow indent n read gap fresh c

/-- A plain scalar. -/
def plainScalar (flow : Bool) (indent : Int) (c : Cursor) : String × Cursor × Bool :=
  let (text, c, fresh) := plainFrom flow indent (c.rest.length + 1) [] [] false c
  (String.ofList text, c, fresh)

/-- The breaks of empty lines inside quotation marks. -/
def quotedBreaks : Nat → List Char → Cursor → Option (List Char × Cursor)
  | 0, breaks, c => some (breaks.reverse, c)
  | n + 1, breaks, c =>
    if c.atDocumentMark then none
    else
      let c := c.skipWhile fun x => x == ' ' || x == '\t'
      match c.lineBreak? with
      | none => some (breaks.reverse, c)
      | some (b, c) => quotedBreaks n (b :: breaks) c

/-- Blanks inside quotation marks. -/
def quotedGap (c : Cursor) : Option (List Char × Cursor) :=
  let blanks := c.rest.takeWhile fun x => x == ' ' || x == '\t'
  let c := c.advanceBy blanks.length
  if c.atEnd then none
  else
    match c.lineBreak? with
    | none => some (blanks, c)
    | some (first, c) => do
      let (breaks, c) ← quotedBreaks (c.rest.length + 1) [] c
      some (folded first breaks, c)

/-- The character that an escape by letter stands for. -/
def escapedLetter? (c : Char) : Option Char :=
  match c with
  | '0' => some '\x00'
  | 'a' => some '\x07'
  | 'b' => some '\x08'
  | 't' | '\t' => some '\t'
  | 'n' => some '\n'
  | 'v' => some '\x0b'
  | 'f' => some '\x0c'
  | 'r' => some '\r'
  | 'e' => some '\x1b'
  | ' ' | '"' | '\\' | '/' => some c
  | 'N' => some '\u0085'
  | '_' => some '\u00a0'
  | 'L' => some '\u2028'
  | 'P' => some '\u2029'
  | _ => none

/-- The number of hexadecimal digits of an escape by number. -/
def escapeWidth? (c : Char) : Option Nat :=
  match c with
  | 'x' => some 2
  | 'u' => some 4
  | 'U' => some 8
  | _ => none

/-- What an escape stands for; the cursor is behind the backslash. -/
def escape? (c : Cursor) : Option (List Char × Cursor) :=
  match escapedLetter? c.peek, escapeWidth? c.peek with
  | some x, _ => if c.atEnd then none else some ([x], c.advance)
  | none, some width => do
    let digits := c.advance.rest.take width
    if digits.length < width then none
    else some ([Char.ofNat (← Text.hexNumber? digits)], c.advance.advanceBy width)
  | none, none => do
    let (_, c) ← c.lineBreak?
    quotedBreaks (c.rest.length + 1) [] c

/-- A scalar in quotation marks from inside on, with the text before it in reverse. -/
def quotedFrom (double : Bool) : Nat → List Char → Cursor → Option (List Char × Cursor)
  | 0, _, _ => none
  | n + 1, read, c =>
    match c.rest with
    | [] => none
    | x :: _ =>
      if !double && x == '\'' && c.peekAt 1 == '\'' then
        quotedFrom double n ('\'' :: read) c.advance.advance
      else if x == (if double then '"' else '\'') then some (read.reverse, c.advance)
      else if double && x == '\\' then
        match escape? c.advance with
        | none => none
        | some (text, c) => quotedFrom double n (text.reverse ++ read) c
      else if x == ' ' || x == '\t' || isBreak x then
        match quotedGap c with
        | none => none
        | some (text, c) => quotedFrom double n (text.reverse ++ read) c
      else quotedFrom double n (x :: read) c.advance

/-- A scalar in quotation marks, the first of which is at the cursor. -/
def quotedScalar? (double : Bool) (c : Cursor) : Option (String × Cursor) := do
  let (text, c) ← quotedFrom double (c.rest.length + 1) [] c.advance
  some (String.ofList text, c)

/-- What happens to the line breaks at the end of a block. -/
inductive Chomping
  | clip
  | strip
  | keep
deriving DecidableEq, Repr, Inhabited

/-- A sign of chomping, if there is one. -/
def chomping? (c : Cursor) : Option (Chomping × Cursor) :=
  if c.peek == '+' then some (.keep, c.advance)
  else if c.peek == '-' then some (.strip, c.advance)
  else none

/-- An explicit indentation, if there is one. -/
def increment? (c : Cursor) : Option (Nat × Cursor) :=
  if c.peek.isDigit then some (c.peek.toNat - 48, c.advance) else none

/-- The signs at the head of a block, in either order. -/
def blockHead (c : Cursor) : Chomping × Option Nat × Cursor :=
  match chomping? c with
  | some (chomping, c) =>
    match increment? c with
    | some (k, c) => (chomping, some k, c)
    | none => (chomping, none, c)
  | none =>
    match increment? c with
    | none => (.clip, none, c)
    | some (k, c) =>
      match chomping? c with
      | some (chomping, c) => (chomping, some k, c)
      | none => (.clip, some k, c)

/-- Empty lines at the start of a block, with the greatest column that spaces reach. -/
def blockIndentation : Nat → List Char → Nat → Cursor → List Char × Nat × Cursor
  | 0, breaks, widest, c => (breaks.reverse, widest, c)
  | n + 1, breaks, widest, c =>
    if c.peek == ' ' then blockIndentation n breaks (max widest c.advance.column) c.advance
    else
      match c.lineBreak? with
      | some (b, c) => blockIndentation n (b :: breaks) widest c
      | none => (breaks.reverse, widest, c)

/-- The cursor behind spaces, at most up to a column. -/
def skipIndent (indent : Nat) (c : Cursor) : Cursor :=
  c.advanceBy (min (indent - c.column) (c.rest.takeWhile (· == ' ')).length)

/-- Empty lines inside a block, up to the indentation of the next one. -/
def blockBreaks (indent : Nat) : Nat → List Char → Cursor → List Char × Cursor
  | 0, breaks, c => (breaks.reverse, c)
  | n + 1, breaks, c =>
    let c := skipIndent indent c
    match c.lineBreak? with
    | some (b, c) => blockBreaks indent n (b :: breaks) c
    | none => (breaks.reverse, c)

/-- What stands between two lines of a block. -/
def betweenLines (fold : Bool) (lineEnd : List Char) (breaks : List Char) (flat : Bool) :
    List Char :=
  if fold && lineEnd == ['\n'] && flat then if breaks.isEmpty then [' '] else []
  else lineEnd

/-- The lines of a block from one on, with the text before them in reverse and the breaks just
before the line. -/
def blockLines (fold : Bool) (indent : Nat) (chomping : Chomping) :
    Nat → List Char → List Char → List Char → Cursor → List Char × Cursor
  | 0, read, _, _, c => (read.reverse, c)
  | n + 1, read, lineEnd, breaks, c =>
    if c.column == indent && !c.atEnd then
      let line := c.rest.takeWhile (!isBreakOrEnd ·)
      let flat := !(c.peek == ' ' || c.peek == '\t')
      let read := line.reverse ++ (breaks.reverse ++ read)
      let c := c.advanceBy line.length
      let (lineEnd, c) :=
        match c.lineBreak? with
        | some (b, c) => ([b], c)
        | none => ([], c)
      let (breaks, c) := blockBreaks indent (c.rest.length + 1) [] c
      if c.column == indent && !c.atEnd then
        let between := betweenLines fold lineEnd breaks
          (flat && !(c.peek == ' ' || c.peek == '\t'))
        blockLines fold indent chomping n (between.reverse ++ read) [] breaks c
      else blockLines fold indent chomping n read lineEnd breaks c
    else
      let read := if chomping = .strip then read else lineEnd.reverse ++ read
      let read := if chomping = .keep then breaks.reverse ++ read else read
      (read.reverse, c)

/-- A block of lines below a given indentation; its sign is at the cursor. -/
def blockScalar? (fold : Bool) (parent : Int) (c : Cursor) : Option (String × Cursor) := do
  let (chomping, increment, c) := blockHead c.advance
  if increment = some 0 || !isSpaceOrEnd c.peek then none
  let c ← c.endLine?
  let least := max (parent + 1) 1
  let (breaks, indent, c) :=
    match increment with
    | none =>
      let (breaks, widest, c) := blockIndentation (c.rest.length + 1) [] 0 c
      (breaks, max least.toNat widest, c)
    | some k =>
      let indent := (least + k - 1).toNat
      let (breaks, c) := blockBreaks indent (c.rest.length + 1) [] c
      (breaks, indent, c)
  let (text, c) := blockLines fold indent chomping (c.rest.length + 2) [] [] breaks c
  some (String.ofList text, c)

end Yaml

end ApiStubs
