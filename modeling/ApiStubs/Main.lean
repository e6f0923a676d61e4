import ApiStubs.Command

/-!
# The program

Reads the files that a run may look at, runs, and writes what the run has changed. Remote hosts are
not asked.
-/

namespace ApiStubs

/-- What stands at a place on the disk. -/
def entryOnDisk (place : Place) : IO (Option Entry) := do
  try
    return some (.file (← IO.FS.readBinFile (FileTree.pathOf place)).data.toList)
  catch e =>
    match e with
    | .inappropriateType none .. => return some .directory
    | _ => return none

/-- A tree with what stands at some more places on the disk. -/
def lookAt (t : FileTree) (places : List Place) : IO FileTree := do
  let mut t := t
  for place in places do
    if let some e ← entryOnDisk place then t := t.putAt place e
  return t

/-- The places that a path leads through. -/
def placesOn (t : FileTree) (path : String) : List Place :=
  let steps := FileTree.steps path
  (List.range (steps.length + 1)).map fun n => FileTree.normalSteps (t.start path) (steps.take n)

/-- Does what options ask for. Where the run writes is looked at before the final run. -/
def runOnDisk (o : Options) : IO UInt32 := do
  let home := FileTree.normalSteps [] (FileTree.steps (← IO.currentDir).toString)
  let t ← lookAt { home } (placesOn { home } Settings.fileName)
  let (settings, _) := (Command.settingsFor o).run.run { files := t }
  let paths :=
    match settings with
    | .ok s => [s.specSource.display, s.outputDirectory.display]
    | .error _ => []
  let t ← lookAt t (paths.flatMap (placesOn t))
  let (_, trial) := (Command.execute o).run.run { files := t }
  let t ← lookAt t ((trial.files.changesSince t).map (·.1))
  let (outcome, desk) := (Command.execute o).run.run { files := t }
  for (place, content) in desk.files.changesSince t do
    IO.FS.createDirAll (FileTree.pathOf place.dropLast)
    IO.FS.writeBinFile (FileTree.pathOf place) ⟨content.toArray⟩
  for line in desk.printed do IO.println line
  let least := if o.verbose then Level.debug else .warning
  for line in Notice.linesFrom least desk.notices do IO.eprintln line
  match outcome with
  | .ok code => return code.toUInt32
  | .error f =>
    IO.eprintln (f.message?.getD "")
    return 1

end ApiStubs

/-- The exit code is two for a command line that is refused. -/
def main (arguments : List String) : IO UInt32 :=
  match ApiStubs.Options.read arguments with
  | .refused => return 2
  | .help => return 0
  | .accepted o => ApiStubs.runOnDisk o
