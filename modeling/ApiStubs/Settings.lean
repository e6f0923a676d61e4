import ApiStubs.Number.Shortest
import ApiStubs.Toml.Reader
import ApiStubs.Value.Display

/-!
# Settings

The five settings of a run, how given texts override them, and how they are written to a file and
read back. A setting is a text in most cases, but a file may hold another scalar.
-/

namespace ApiStubs

inductive SettingName
  | specSource
  | namespaceName
  | clientName
  | outputDirectory
  | target
deriving DecidableEq, Repr, Inhabited

namespace SettingName

/-- The key of a setting in a file. -/
def label : SettingName → String
  | .specSource => "spec_source"
  | .namespaceName => "namespace_name"
  | .clientName => "client_name"
  | .outputDirectory => "output_directory"
  | .target => "target"

/-- All names in the order in which they are written. -/
def all : List SettingName :=
  [.specSource, .namespaceName, .clientName, .outputDirectory, .target]

end SettingName

structure Settings where
  specSource : Scalar := .null
  namespaceName : Scalar := .text "Generated.Client"
  clientName : Scalar := .text "ApiClient"
  outputDirectory : Scalar := .text "generated"
  target : Scalar := .text "python"
deriving DecidableEq, Repr, Inhabited

namespace Settings

def get (s : Settings) : SettingName → Scalar
  | .specSource => s.specSource
  | .namespaceName => s.namespaceName
  | .clientName => s.clientName
  | .outputDirectory => s.outputDirectory
  | .target => s.target

/-- The settings with given values. -/
def ofValues (f : SettingName → Scalar) : Settings where
  specSource := f .specSource
  namespaceName := f .namespaceName
  clientName := f .clientName
  outputDirectory := f .outputDirectory
  target := f .target

@[simp] theorem get_ofValues (f : SettingName → Scalar) (n : SettingName) :
    (ofValues f).get n = f n := by
  cases n <;> rfl

@[simp] theorem ofValues_get (s : Settings) : ofValues s.get = s := rfl

/-- The name of the file in which settings are looked for. -/
def fileName : String := "openapi-stubgen.toml"

/-- The settings with given texts in place of the former values. An empty text changes nothing. -/
def override (s : Settings) (given : SettingName → Option String) : Settings :=
  ofValues fun n =>
    match given n with
    | some t => if t.isEmpty then s.get n else .text t
    | none => s.get n

/-- The settings in a file. One that the file does not have, or that is no scalar there, has the
usual value. -/
def ofItems (items : List (String × Toml.Item)) : Settings :=
  ofValues fun n =>
    match items.lookup n.label with
    | some (.scalar v) => v
    | _ => ({} : Settings).get n

/-- The settings that the text of a file says, if its form is sound. -/
def read? (text : String) : Option Settings :=
  (Toml.read? text).map ofItems

/-- A scalar as a value in a file; there is none for the absence of a value. -/
def valueText? : Scalar → Option String
  | .text s => Toml.writeString? s
  | .bool b => some (if b then "true" else "false")
  | .null => none
  | v => some v.display

/-- The line of a setting in a file, which is empty if the setting is absent. -/
def line? (s : Settings) (n : SettingName) : Option String :=
  match s.get n with
  | .null => some ""
  | v => (valueText? v).map fun t => n.label ++ " = " ++ t ++ "\n"

/-- The text of a file with these settings. Some texts have no form in a file. -/
def written? (s : Settings) : Option String :=
  (SettingName.all.mapM s.line?).map Text.concat

end Settings

end ApiStubs
