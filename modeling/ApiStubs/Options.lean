import ApiStubs.Options.Word
import ApiStubs.Target.Language

/-!
# Options

What a command line asks for. Words are taken from the left; help is given as soon as it is asked
for, and words that mean nothing are held against the whole line at its end.
-/

namespace ApiStubs

/-- What a command line asks for; of several values for one setting the first in the list counts. -/
structure Options where
  values : List (SettingName × String) := []
  initConfig : Bool := false
  dryRun : Bool := false
  verbose : Bool := false
deriving DecidableEq, Repr, Inhabited

/-- What becomes of a command line. -/
inductive Invocation
  | accepted (o : Options)
  | help
  | refused
deriving DecidableEq, Repr, Inhabited

namespace Options

/-- The value that is given for a setting. -/
def given (o : Options) (n : SettingName) : Option String :=
  o.values.lookup n

/-- The flags behind one dash, and whether a letter that calls none ends them. Neither a dash nor an
equals sign may follow a flag. -/
def flagsOf? : List Char → Option (List Flag × Bool)
  | [] => some ([], false)
  | c :: rest =>
    match Flag.ofLetter? c with
    | some f => (flagsOf? rest).map fun p => (f :: p.1, p.2)
    | none => if c = '-' ∨ c = '=' then none else some ([], true)

/-- The options with flags set, unless help is asked for. -/
def withFlags? (o : Options) : List Flag → Option Options
  | [] => some o
  | .help :: _ => none
  | .initConfig :: rest => withFlags? { o with initConfig := true } rest
  | .dryRun :: rest => withFlags? { o with dryRun := true } rest
  | .verbose :: rest => withFlags? { o with verbose := true } rest

/-- The options with a value for a setting. Only the label of a language is one for the target. -/
def withValue? (o : Options) (n : SettingName) (text : String) : Option Options :=
  if n = .target ∧ !(Language.all.map (·.label)).contains text then none
  else some { o with values := (n, text) :: o.values }

/-- Takes the words that are left; `stray` says that a word before them meant nothing. -/
def take (o : Options) (stray : Bool) : List Word → Invocation
  | [] => if stray then .refused else .accepted o
  | .mark :: _ => .refused
  | .value _ :: rest | .unknown :: rest => take o true rest
  | .flags letters :: rest =>
    match flagsOf? letters with
    | none => .refused
    | some (flags, ended) =>
      match o.withFlags? flags with
      | none => .help
      | some o => take o (stray || ended) rest
  | .option (.flag f) none :: rest =>
    match o.withFlags? [f] with
    | none => .help
    | some o => take o stray rest
  | .option (.flag _) (some _) :: _ => .refused
  | .option (.setting n) (some text) :: rest | .option (.setting n) none :: .value text :: rest =>
    match o.withValue? n text with
    | none => .refused
    | some o => take o stray rest
  | .option (.setting _) none :: _ => .refused

/-- What becomes of the texts of a command line. -/
def read (texts : List String) : Invocation :=
  match Word.ofTexts? texts with
  | none => .refused
  | some words => take {} false words

end Options

end ApiStubs
