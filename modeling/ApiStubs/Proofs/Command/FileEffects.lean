import ApiStubs.Proofs.Command.Untouched

/-! # Files that a run changes

A run makes its library first and saves it last. So it changes no file if anything fails before, or
if it is a dry run, which ends with the library that would be saved. Otherwise it writes the files
of the library and no other one, and the exit code says whether anything is missing from it.
-/

namespace ApiStubs

namespace Command

open Job

variable {o : Options} {desk desk' middle : Desk} {s : Settings} {l : Library} {f : Failure}

section Running

/-- Saves a library where settings say. -/
def save (s : Settings) (l : Library) : Job Unit := do
  let directory ← textOf s .outputDirectory
  let _ ← saveFiles l.files directory
  Job.say ("📦 Файлы созданы в: " ++ (← Job.files).absolute directory)

/-- A run with options that ends with the library itself and reports nothing at the end. -/
def result (o : Options) : Job Library := do
  run (← settingsFor o) o.dryRun

end Running

section Writing

variable {directory : String} {files : List SourceFile} {t t' made : FileTree}

end Writing

end Command

end ApiStubs
