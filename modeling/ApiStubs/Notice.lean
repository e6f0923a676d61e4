import ApiStubs.Issue
import ApiStubs.Value.Display

/-!
# Notices

What is reported on the way to a result, with its level, the channel it is reported on and its
wording.
-/

namespace ApiStubs

inductive Level
  | debug
  | info
  | warning
  | error
deriving DecidableEq, Repr, Inhabited

def Level.label : Level → String
  | .debug => "DEBUG"
  | .info => "INFO"
  | .warning => "WARNING"
  | .error => "ERROR"

/-- Levels from the least to the most severe one. -/
def Level.rank : Level → Nat
  | .debug => 0
  | .info => 1
  | .warning => 2
  | .error => 3

inductive Notice
  | namelessParameter (source : String)
  | documentRead (source : String) (schemas routes : Nat)
  | unmodeled (context rawType : String)
  | modelSkipped (name : String) (problem : Problem)
  | operationSkipped (operation : String) (problem : Problem)
  | methodNameShared (method : String) (operations : List String)
  | modelWritten (name : String) (fields : Nat)
  | clientWritten (name : String) (methods : Nat)
  | libraryWritten (models methods : Nat) (client : String) (issues : Nat)
  | fileSaved (path : String)
  | settingsUnreadable (path : String)
  | stopped (message : String)
deriving DecidableEq, Repr, Inhabited

namespace Notice

def level : Notice → Level
  | .documentRead .. | .modelWritten .. | .clientWritten .. | .fileSaved .. => .debug
  | .libraryWritten .. => .info
  | .stopped _ => .error
  | _ => .warning

def channel : Notice → String
  | .namelessParameter _ | .documentRead .. => "openapi_stubgen.internal.parser.openapi"
  | .modelWritten .. | .clientWritten .. => "openapi_stubgen.internal.generator.emitters"
  | .fileSaved _ | .stopped _ => "openapi_stubgen.cli"
  | .settingsUnreadable _ => "openapi_stubgen.config"
  | _ => "openapi_stubgen.internal.generator.library_generator"

/-- The wording of a notice. Where a format library words the cause, a mark stands for it. -/
def message : Notice → String
  | .namelessParameter source => source ++ ": параметр без имени пропущен"
  | .documentRead source schemas routes =>
    source ++ ": " ++ toString schemas ++ " схем, " ++ toString routes ++ " путей"
  | .unmodeled context rawType =>
    context ++ ": тип " ++ rawType ++ " не поддерживается, используется Any"
  | .modelSkipped name problem => "Модель " ++ name ++ " пропущена: " ++ problem.message
  | .operationSkipped operation problem =>
    "Операция " ++ operation ++ " пропущена: " ++ problem.message
  | .methodNameShared method operations =>
    "Коллизия имени метода " ++ method ++ ": " ++
      Value.bracketed (operations.map Text.quoted)
  | .modelWritten name fields => "Модель " ++ name ++ ": " ++ toString fields ++ " полей"
  | .clientWritten name methods => "Клиент " ++ name ++ ": " ++ toString methods ++ " методов"
  | .libraryWritten models methods client issues =>
    "Сгенерировано " ++ toString models ++ " моделей и " ++ toString methods ++
      " методов клиента " ++ client ++ ", ошибок: " ++ toString issues
  | .fileSaved path => "Записан " ++ path
  | .settingsUnreadable path => "Конфиг " ++ path ++ " не прочитан: <parser error>"
  | .stopped message => message

/-- A notice as one line of a log. -/
def line (n : Notice) : String :=
  n.level.label ++ " " ++ n.channel ++ ": " ++ n.message

/-- The lines of the notices that are at least as severe as a level. -/
def linesFrom (least : Level) (notices : List Notice) : List String :=
  (notices.filter fun n => least.rank ≤ n.level.rank).map line

end Notice

end ApiStubs
