import ApiStubs.FileTree
import ApiStubs.Issue
import ApiStubs.Reference.Failure
import ApiStubs.Settings
import ApiStubs.Target.Outline

/-!
# Failures

Everything that can end a run without a result, and the wording of what is worded here.
-/

namespace ApiStubs

inductive Failure
  | problem (p : Problem)
  | reading (f : ReadFailure)
  | spelling (u : Unspelled)
  | files (f : FileFailure)
  | documentMissing
  | unknownTarget (name : String)
  | incomplete (issues : List Issue)
  | unknownVerb (text : String)
  | sourceMissing
  | settingNotText (name : SettingName)
  | settingsUnwritable
  | notText
deriving DecidableEq, Repr, Inhabited

namespace Failure

/-- The wording of a failure, if it has one. -/
def message? : Failure → Option String
  | .problem p => some p.message
  | .reading f => f.message?
  | .spelling (.bodyUnsupported body) => some ("Неподдерживаемое тело метода: " ++ body)
  | .spelling _ | .files _ | .settingNotText _ | .settingsUnwritable | .notText => none
  | .documentMissing => some "Документ не передан: генерация невозможна"
  | .unknownTarget name =>
    some ("Неизвестный целевой язык " ++ Text.quoted name ++ ", доступны: " ++
      Text.joinWith ", " (Language.all.map (·.label)))
  | .incomplete issues =>
    some (Text.joinWith "\n"
      (("Генерация завершилась с ошибками (" ++ toString issues.length ++ "):") ::
        issues.map fun i => "  - " ++ i.line))
  | .unknownVerb text => some (Text.quoted text ++ " is not a valid HttpMethod")
  | .sourceMissing => some "Источник спецификации не указан в конфигурации"

/-- Whether a failure is one of those that a run reports in its own words. -/
def isReported : Failure → Bool
  | .problem _ | .documentMissing | .unknownTarget _ | .incomplete _ => true
  | .reading (.unreadable ..) => true
  | _ => false

end Failure

end ApiStubs
