import ApiStubs.Text.Quoted
import ApiStubs.Text.Split

/-!
# Issues

Why one model or one method is left out of a library.
-/

namespace ApiStubs

inductive Problem
  | missingItems (context : String)
  | methodNameCollision (method : String) (operations : List String)
  | parameterNameCollision (operation parameter : String)
  | fieldNameCollision (model field : String)
  | unresolvedModel (entity model : String)
  | stated (text : String)
deriving DecidableEq, Repr, Inhabited

/-- The wording of a problem. -/
def Problem.message : Problem → String
  | .missingItems context => context ++ ": схема типа array не содержит items"
  | .methodNameCollision method operations =>
    "Имя метода " ++ method ++ " получено для нескольких операций: " ++
      Text.joinWith ", " operations
  | .parameterNameCollision operation parameter =>
    operation ++ ": несколько параметров получают имя " ++ parameter
  | .fieldNameCollision model field =>
    model ++ ": несколько свойств получают имя поля " ++ field
  | .unresolvedModel entity model =>
    entity ++ ": зависит от несгенерированной модели " ++ model
  | .stated text => text

/-- A problem with the model, operation or method name that it concerns. -/
structure Issue where
  entity : String
  problem : Problem
deriving DecidableEq, Repr, Inhabited

namespace Issue

/-- An issue in a report. -/
def line (i : Issue) : String :=
  "[" ++ i.entity ++ "] " ++ i.problem.message

/-- An issue as it is shown to a programmer. -/
def shown (i : Issue) : String :=
  "GenerationIssue(" ++ Text.quoted i.entity ++ ", " ++ Text.quoted i.problem.message ++ ")"

end Issue

end ApiStubs
