import ApiStubs.Text.Quoted

/-!
# Failures of reading

Why a specification cannot be read.
-/

namespace ApiStubs

/-- What is wrong with a specification as a whole, or with a reference in it. -/
inductive Unreadable
  | rootNotObject (found : String)
  | circularReference (ref : String)
  | danglingReference (ref : String)
  | referenceToScalar (ref : String)
  | fileNotFound
  | formatBroken
  | contentNotObject
deriving DecidableEq, Repr, Inhabited

def Unreadable.message : Unreadable → String
  | .rootNotObject found => "ожидался объект, получен " ++ found
  | .circularReference ref => "циклическая ссылка " ++ ref
  | .danglingReference ref => "ссылка " ++ ref ++ " не найдена"
  | .referenceToScalar ref => "ссылка " ++ ref ++ " не на объект"
  | .fileNotFound => "файл не найден"
  | .formatBroken => "<parser error>"
  | .contentNotObject => "корень спецификации должен быть объектом"

/-- Why a linked reference leads nowhere. -/
inductive BrokenLink
  | unresolvable (pointer : String)
  | toItself
  | foreign (location : String)
  | foreignScheme (scheme : String)
deriving DecidableEq, Repr, Inhabited

def BrokenLink.message : BrokenLink → String
  | .unresolvable pointer => "Unresolvable JSON pointer: " ++ Text.quoted pointer
  | .toItself => "Reference refers directly to itself."
  | .foreign location => "ValueError: unknown url type: " ++ Text.quoted location
  | .foreignScheme scheme => "URLError: <urlopen error unknown url type: " ++ scheme ++ ">"

/-- Why reading ends without a document. -/
inductive ReadFailure
  | unreadable (source : String) (reason : Unreadable)
  | brokenLink (ref : String) (reason : BrokenLink)
  | objectExpected
  | listExpected
  | textExpected
  | endless
deriving DecidableEq, Repr, Inhabited

/-- The wording of the failures that have one. -/
def ReadFailure.message? : ReadFailure → Option String
  | .unreadable source reason =>
    some ("Не удалось разобрать спецификацию " ++ source ++ ": " ++ reason.message)
  | .brokenLink ref reason =>
    some ("Error while resolving \x60" ++ ref ++ "\x60: " ++ reason.message)
  | _ => none

end ApiStubs
