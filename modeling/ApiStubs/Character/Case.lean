import ApiStubs.Character.CaseTable
import ApiStubs.Character.Class

/-!
# Upper and lower case

The full case mappings, which may turn one character into several. A capital sigma at the end of a
word has a lower case of its own.
-/

namespace ApiStubs

namespace Character

/-- The code point to which the first run that holds `n` moves it. -/
def shifted : List CaseRun → Nat → Option Nat
  | [], _ => none
  | r :: rest, n =>
    if r.lo ≤ n ∧ n ≤ r.hi ∧ (n - r.lo) % r.step = 0 then
      some (if r.up then n + r.shift else n - r.shift)
    else shifted rest n

/-- One character under a case mapping. -/
def mapped (runs : List CaseRun) (expansions : List (Nat × List Nat)) (c : Char) : List Char :=
  match expansions.lookup c.toNat with
  | some codes => codes.map Char.ofNat
  | none =>
    match shifted runs c.toNat with
    | some n => [Char.ofNat n]
    | none => [c]

/-- The upper case of one character. -/
def upper (c : Char) : List Char :=
  mapped upperRuns upperExpansions c

/-- A letter that has a case. -/
def isCased (c : Char) : Bool :=
  inRanges casedRanges c.toNat

/-- A character to look past for the nearest cased letter. -/
def isCaseIgnorable (c : Char) : Bool :=
  inRanges caseIgnorableRanges c.toNat

/-- Whether the nearest character that counts, seen from a sigma, is a cased letter. -/
def nextIsCased (cs : List Char) : Bool :=
  match cs.dropWhile isCaseIgnorable with
  | [] => false
  | c :: _ => isCased c

/-- The lower case of a text, of which `before` has been read, last character first. -/
def lowerFrom : List Char → List Char → List Char
  | _, [] => []
  | before, c :: cs =>
    (if c = 'Σ' then [if nextIsCased before && !nextIsCased cs then 'ς' else 'σ']
      else mapped lowerRuns lowerExpansions c) ++ lowerFrom (c :: before) cs

/-- The lower case of a text. -/
def lower (cs : List Char) : List Char :=
  lowerFrom [] cs

end Character

end ApiStubs
