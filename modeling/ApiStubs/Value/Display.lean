import ApiStubs.Number.Shortest
import ApiStubs.Text.Quoted
import ApiStubs.Text.Split
import ApiStubs.Value

/-!
# Values as text

A scalar stands for itself; inside an array or an object texts are quoted.
-/

namespace ApiStubs

namespace Scalar

/-- A number with at least the given count of digits. -/
def padded (width n : Nat) : String :=
  let digits := Nat.toDigits 10 n
  String.ofList (List.replicate (width - digits.length) '0' ++ digits)

/-- A scalar on its own. -/
def display : Scalar → String
  | .null => "None"
  | .bool true => "True"
  | .bool false => "False"
  | .int n => toString n
  | .real x => x.text
  | .text s => s
  | .date y m d => padded 4 y ++ "-" ++ padded 2 m ++ "-" ++ padded 2 d

/-- A scalar inside an array or an object. -/
def inner : Scalar → String
  | .text s => Text.quoted s
  | .date y m d =>
    "datetime.date(" ++ toString y ++ ", " ++ toString m ++ ", " ++ toString d ++ ")"
  | s => s.display

end Scalar

namespace Value

def bracketed (parts : List String) : String :=
  "[" ++ Text.joinWith ", " parts ++ "]"

def braced (parts : List String) : String :=
  "\x7b" ++ Text.joinWith ", " parts ++ "\x7d"

mutual

/-- A value inside an array or an object. -/
def inner : Value → String
  | .scalar s => s.inner
  | .array items => bracketed (innerItems items)
  | .object fields => braced (innerFields fields)

def innerItems : List Value → List String
  | [] => []
  | v :: rest => v.inner :: innerItems rest

def innerFields : List (Scalar × Value) → List String
  | [] => []
  | (k, v) :: rest => (k.inner ++ ": " ++ v.inner) :: innerFields rest

end

/-- A value on its own. -/
def display : Value → String
  | .scalar s => s.display
  | v => v.inner

end Value

end ApiStubs
