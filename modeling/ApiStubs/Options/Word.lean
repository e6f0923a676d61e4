import ApiStubs.Character.Class
import ApiStubs.Settings
import ApiStubs.Text.Split

/-!
# Words of a command line

What one word of a command line is by its form. The name of an option may be cut off as long as it
can be no other one, and short flags may share one dash.
-/

namespace ApiStubs

inductive Flag
  | initConfig
  | dryRun
  | verbose
  | help
deriving DecidableEq, Repr, Inhabited

inductive OptionName
  | setting (n : SettingName)
  | flag (f : Flag)
deriving DecidableEq, Repr, Inhabited

namespace OptionName

/-- All options with the names by which they are called. -/
def spelled : List (String × OptionName) :=
  [("--help", .flag .help), ("--spec", .setting .specSource),
   ("--namespace", .setting .namespaceName), ("--client-name", .setting .clientName),
   ("--output", .setting .outputDirectory), ("--target", .setting .target),
   ("--init-config", .flag .initConfig), ("--dry-run", .flag .dryRun),
   ("--verbose", .flag .verbose)]

/-- The options whose names start in a certain way. -/
def startingWith (word : List Char) : List OptionName :=
  (spelled.filter fun p => (Text.dropStart? word p.1.toList).isSome).map (·.2)

end OptionName

/-- The flag that a single letter calls. -/
def Flag.ofLetter? : Char → Option Flag
  | 'h' => some .help
  | 'v' => some .verbose
  | _ => none

/-- A word of a command line: the mark behind which there are no more options, a plain value, an
option with the value attached to it, flags behind one dash, or something like an option that is
none. -/
inductive Word
  | mark
  | value (text : String)
  | option (name : OptionName) (attached : Option String)
  | flags (letters : List Char)
  | unknown
deriving DecidableEq, Repr, Inhabited

namespace Word

/-- Whether a text is a dash and a number. -/
def isNegativeNumber (cs : List Char) : Bool :=
  match cs with
  | '-' :: rest =>
    let whole := rest.takeWhile Character.isDigit
    match rest.dropWhile Character.isDigit with
    | [] => !whole.isEmpty
    | '.' :: fraction => !fraction.isEmpty && fraction.all Character.isDigit
    | _ => false
  | _ => false

/-- What a text that calls no option is. -/
def other (cs : List Char) : Word :=
  if isNegativeNumber cs || cs.contains ' ' then .value (String.ofList cs) else .unknown

/-- The name in an option, and the value attached to it. -/
def nameAndValue (cs : List Char) : List Char × Option String :=
  let name := cs.takeWhile (· ≠ '=')
  match cs.dropWhile (· ≠ '=') with
  | [] => (name, none)
  | _ :: text => (name, some (String.ofList text))

/-- The word that a text is, unless it may call several options. -/
def ofText? (s : String) : Option Word :=
  match s.toList with
  | ['-', '-'] => some .mark
  | '-' :: '-' :: rest =>
    let (name, attached) := nameAndValue ('-' :: '-' :: rest)
    match OptionName.startingWith name with
    | [] => some (other ('-' :: '-' :: rest))
    | [o] => some (.option o attached)
    | _ => none
  | '-' :: c :: rest =>
    match Flag.ofLetter? c with
    | some _ => some (.flags (c :: rest))
    | none => some (other ('-' :: c :: rest))
  | _ => some (.value s)

/-- The words of a command line. Behind the mark there are plain values only. -/
def ofTexts? : List String → Option (List Word)
  | [] => some []
  | s :: rest => do
    match ← ofText? s with
    | .mark => some (.mark :: rest.map .value)
    | w => some (w :: (← ofTexts? rest))

end Word

end ApiStubs
