import ApiStubs.Desk

/-!
# Settings files

Settings are looked for at a path, or under the usual name in a directory. A file that is not sound
is passed over with a notice.
-/

namespace ApiStubs

namespace Settings

/-- Where settings are looked for: in a directory if it has a file with the usual name, and at a
path otherwise. -/
def pathIn (t : FileTree) (path : String) (directory : Option String) : String :=
  match directory with
  | some d =>
    let found := FileTree.join d fileName
    if !d.isEmpty && t.isDirectory d && t.pathExists found then found else path
  | none => path

/-- Loads the settings that there are. -/
def load? (path : String) (directory : Option String) : Job (Option Settings) := do
  let t ← Job.files
  let path := pathIn t path directory
  if t.pathExists path then
    match read? (← Job.readText path) with
    | some s => pure (some s)
    | none =>
      Job.note [.settingsUnreadable path]
      pure none
  else pure none

/-- Saves settings. The file is emptied before it is known that they have a written form. -/
def save (s : Settings) (path : String) : Job Unit := do
  Job.writeText path ""
  match s.written? with
  | some text => Job.writeText path text
  | none => throw .settingsUnwritable

end Settings

end ApiStubs
