import ApiStubs.Generator
import ApiStubs.Options
import ApiStubs.Settings.File
import ApiStubs.Source

/-!
# The command

A run from settings loads a specification, generates a library and saves it, and prints what it
does. The command takes its settings from a file and from its options, and its result is an exit
code.
-/

namespace ApiStubs

namespace Command

/-- Saves files in a directory, which is made if need be. The result is the paths. -/
def saveFiles (files : List SourceFile) (directory : String) : Job (List String) := do
  Job.change fun t => t.makeDirectories directory
  files.mapM fun f => do
    let path := FileTree.join directory f.fileName
    Job.writeText path f.content
    Job.note [.fileSaved path]
    pure path

/-- The text of a setting that has to be one. -/
def textOf (s : Settings) (n : SettingName) : Except Failure String :=
  match s.get n with
  | .text t => .ok t
  | _ => .error (.settingNotText n)

/-- The library of a specification by some settings. -/
def libraryFor (s : Settings) (spec : Spec) : Traced Failure Library :=
  match textOf s .target with
  | .ok label => do
    let library ← generateLibrary (.spec spec) s.namespaceName.display s.clientName.display label
    let _ ← textOf s .clientName
    pure library
  | .error f => do
    let _ ← Origin.document? (.spec spec)
    throw f

/-- Runs from settings. A dry run saves nothing. -/
def run (s : Settings) (dryRun : Bool) : Job Library := do
  if s.specSource.isEmpty then throw .sourceMissing
  Job.say ("📥 Загрузка спецификации " ++ s.specSource.display ++ "...")
  let spec ← Source.load (← textOf s .specSource)
  Job.say ("⚙️ Генерация кода (" ++ s.target.display ++ ")...")
  let library ← Job.traced (libraryFor s spec)
  if dryRun then
    library.files.forM fun f => Job.say ("   " ++ f.fileName)
  else
    Job.say ("💾 Сохранение " ++ toString library.files.length ++ " файлов...")
    let directory ← textOf s .outputDirectory
    let _ ← saveFiles library.files directory
    Job.say ("📦 Файлы созданы в: " ++ (← Job.files).absolute directory)
  pure library

/-- Writes a file with the settings that options give. -/
def initialise (o : Options) : Job Nat := do
  (({} : Settings).override o.given).save Settings.fileName
  Job.say ("✅ Создан конфиг файл " ++ Settings.fileName)
  pure 0

/-- The settings that a file and options give. -/
def settingsFor (o : Options) : Job Settings := do
  let found ← Settings.load? Settings.fileName none
  if found.isSome then Job.say ("📋 Используется конфиг из " ++ Settings.fileName)
  pure ((found.getD {}).override o.given)

/-- The exit code for a library, with a line for everything that is missing from it. -/
def reportLibrary (l : Library) : Job Nat := do
  if l.isComplete then
    Job.say "✅ Генерация завершена успешно!"
    pure 0
  else
    Job.say ("⚠️ Пропущено сущностей: " ++ toString l.issues.length)
    l.issues.forM fun i => Job.say ("   " ++ i.line)
    pure 1

/-- The exit code for a failure that is reported; any other one goes on. -/
def reportFailure (f : Failure) : Job Nat := do
  match f.isReported, f.message? with
  | true, some message =>
    Job.note [.stopped message]
    Job.say ("❌ Ошибка генерации: " ++ message)
    pure 1
  | _, _ => throw f

/-- Runs with options; the result is the exit code. -/
def execute (o : Options) : Job Nat := do
  if o.initConfig then initialise o
  else
    let s ← settingsFor o
    if s.specSource.isEmpty then
      Job.say "❌ Ошибка: Укажите --spec или создайте конфиг с --init-config"
      pure 1
    else
      let outcome ← try Except.ok <$> run s o.dryRun catch f => pure (.error f)
      match outcome with
      | .ok library => reportLibrary library
      | .error f => reportFailure f

end Command

end ApiStubs
