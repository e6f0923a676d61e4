import ApiStubs.Proofs.Text.Literal
import Mathlib.Data.List.Flatten

/-! # Values of string literals

Where each escape of four digits is a code point of its own, a literal stands for the units of
sixteen bits that its text is written in. These are the code points of the text as long as there is
no character beyond the first plane, and never otherwise, since such a character has two units.
-/

namespace ApiStubs.Text

variable {c : Char} {cs : List Char} {ns : List Nat} {s : String}

/-- The code points of a text. -/
def codePoints (s : String) : List Nat :=
  s.toList.map Char.toNat

/-- A text without a character beyond the first plane. -/
def InFirstPlane (s : String) : Prop :=
  ∀ c ∈ s.toList, c.toNat < 0x10000

instance : Decidable (InFirstPlane s) :=
  decidable_of_decidable_of_iff (p := (s.toList.all fun c => c.toNat < 0x10000) = true)
    (by simp [InFirstPlane])

/-- The code point for a letter or a mark behind a backslash. -/
def escapedCode? : Char → Option Nat
  | '\\' => some 0x5C
  | '"' => some 0x22
  | 'n' => some 0xA
  | 'r' => some 0xD
  | 't' => some 0x9
  | 'b' => some 0x8
  | 'f' => some 0xC
  | _ => none

/-- The code points that a literal in double quotes stands for, from behind the opening mark to the
closing one, and the rest. An escape of four digits is one code point, and no line break may stand
in a literal. -/
def readCodes? : List Char → Option (List Nat × List Char)
  | [] => none
  | '"' :: rest => some ([], rest)
  | '\\' :: 'u' :: a :: b :: c :: d :: rest => do
    let n ← hexNumber? [a, b, c, d]
    let (ns, rest) ← readCodes? rest
    some (n :: ns, rest)
  | '\\' :: c :: rest => do
    let n ← escapedCode? c
    let (ns, rest) ← readCodes? rest
    some (n :: ns, rest)
  | c :: rest =>
    if c = '\\' ∨ c = '\n' ∨ c = '\r' then none
    else do
      let (ns, rest) ← readCodes? rest
      some (c.toNat :: ns, rest)

/-- The code points of the literal at the start of some characters, and the rest. -/
def readValue? : List Char → Option (List Nat × List Char)
  | '"' :: rest => readCodes? rest
  | _ => none

/-- The code points of a literal, if nothing but this tail stands behind it. -/
def valueBefore? (tail cs : List Char) : Option (List Nat) :=
  match readValue? cs with
  | some (ns, rest) => if rest = tail then some ns else none
  | none => none

/-- The code points that a whole literal stands for. -/
def value? (text : String) : Option (List Nat) :=
  valueBefore? [] text.toList

/-- The units of sixteen bits of a text. -/
def units (s : String) : List Nat :=
  s.toList.flatMap fun c => units16 c.toNat

/-- What is read in front of a text. -/
def behind (ns : List Nat) (p : List Nat × List Char) : List Nat × List Char :=
  (ns ++ p.1, p.2)

theorem behind_behind (ns ms : List Nat) (p : List Nat × List Char) :
    behind ns (behind ms p) = behind (ns ++ ms) p := by
  rw [behind, behind, behind, List.append_assoc]

section Step

theorem readCodes?_letter {n : Nat} (h : escapedCode? c = some n) (rest : List Char) :
    readCodes? ('\\' :: c :: rest) = (readCodes? rest).map (behind [n]) := by
  have hu : c ≠ 'u' := by
    rintro rfl
    cases h
  rw [readCodes?]
  · simp [h, Option.map_eq_bind, behind, Function.comp_def]
  · rintro a b c d rest hc -
    exact hu hc

theorem readCodes?_hex {n : Nat} (h : n < 0x10000) (rest : List Char) :
    readCodes? ('\\' :: 'u' :: (hex 4 n ++ rest)) = (readCodes? rest).map (behind [n]) := by
  have hdigits : n < 16 ^ 4 := h
  have hnumber : hexNumber? (hex 4 n) = some n := by
    rw [hexNumber?_hex, Nat.mod_eq_of_lt hdigits]
  have hread : readCodes? ('\\' :: 'u' :: (hex 4 n ++ rest)) = (do
      let n ← hexNumber? (hex 4 n)
      let (ns, rest) ← readCodes? rest
      some (n :: ns, rest)) := rfl
  rw [hread, hnumber]
  simp [Option.map_eq_bind, behind, Function.comp_def]

theorem readCodes?_plain (hmark : c ≠ '"') (hslash : c ≠ '\\') (h : ' ' ≤ c) (rest : List Char) :
    readCodes? (c :: rest) = (readCodes? rest).map (behind [c.toNat]) := by
  have hbreak : ¬ (c = '\\' ∨ c = '\n' ∨ c = '\r') := by
    rintro (rfl | rfl | rfl)
    · exact hslash rfl
    · exact absurd h (by decide)
    · exact absurd h (by decide)
  rw [readCodes?]
  · simp [hbreak, Option.map_eq_bind, behind, Function.comp_def]
  all_goals simp_all

/-- Escapes of units are read as the units. -/
theorem readCodes?_flatMap_hex (h : ∀ n ∈ ns, n < 0x10000) (rest : List Char) :
    readCodes? ((ns.flatMap fun n => '\\' :: 'u' :: hex 4 n) ++ rest) =
      (readCodes? rest).map (behind ns) := by
  induction ns with
  | nil => exact Option.map_id'.symm
  | cons n ns ih =>
    obtain ⟨hn, hns⟩ := List.forall_mem_cons.mp h
    rw [List.flatMap_cons, List.append_assoc, List.cons_append, List.cons_append,
      readCodes?_hex hn, ih hns, Option.map_map]
    exact congrArg (fun f => (readCodes? rest).map f) (funext fun p => behind_behind [n] ns p)

theorem units16_lt (c : Char) : ∀ n ∈ units16 c.toNat, n < 0x10000 := by
  have hvalid : c.toNat < 0xD800 ∨ 0xDFFF < c.toNat ∧ c.toNat < 0x110000 := c.valid
  unfold units16
  split
  · simpa
  · simp only [List.forall_mem_cons]
    exact ⟨by omega, by omega, by simp⟩

/-- What a character is written as is read as its units. -/
theorem readCodes?_literalChar (c : Char) (rest : List Char) :
    readCodes? (literalChar c ++ rest) = (readCodes? rest).map (behind (units16 c.toNat)) := by
  unfold literalChar
  split
  · next hc => rcases hc with rfl | rfl <;> exact readCodes?_letter rfl rest
  split
  · next hc => exact hc ▸ readCodes?_letter rfl rest
  split
  · next hc => exact hc ▸ readCodes?_letter rfl rest
  split
  · next hc => exact hc ▸ readCodes?_letter rfl rest
  split
  · next hc => exact hc ▸ readCodes?_letter rfl rest
  split
  · next hc => exact hc ▸ readCodes?_letter rfl rest
  split
  · next hmarks _ _ _ _ _ hc =>
    have hfirst : c.toNat < 0x10000 := Nat.lt_of_le_of_lt (Char.le_def.mp hc.2) (by decide)
    rw [units16, if_pos hfirst]
    exact readCodes?_plain (fun h => hmarks (.inl h)) (fun h => hmarks (.inr h)) hc.1 rest
  · exact readCodes?_flatMap_hex (units16_lt c) rest

end Step

/-- By induction on the text that was written: a literal is read up to its closing mark. -/
theorem readCodes?_flatMap (cs rest : List Char) :
    readCodes? (cs.flatMap literalChar ++ '"' :: rest) =
      some (cs.flatMap fun c => units16 c.toNat, rest) := by
  induction cs with
  | nil => rfl
  | cons c cs ih =>
    rw [List.flatMap_cons, List.append_assoc, readCodes?_literalChar, ih]
    rfl

/-- Whatever comes behind a literal, it stands for the units of the text that it was written for. -/
theorem readValue?_literal (s : String) (rest : List Char) :
    readValue? ((literal s).toList ++ rest) = some (units s, rest) := by
  have htext : (literal s).toList ++ rest =
      '"' :: (s.toList.flatMap literalChar ++ '"' :: rest) := by
    simp [literal]
  rw [htext]
  exact readCodes?_flatMap s.toList rest

theorem valueBefore?_literal (s : String) (tail : List Char) :
    valueBefore? tail ((literal s).toList ++ tail) = some (units s) := by
  simp only [valueBefore?, readValue?_literal, if_pos]

theorem value?_literal (s : String) : value? (literal s) = some (units s) := by
  rw [value?, ← List.append_nil (literal s).toList, valueBefore?_literal]

section Units

/-- A character beyond the first plane has two units, the first of which is another code point. -/
theorem flatMap_units16_eq_iff : (cs.flatMap fun c => units16 c.toNat) = cs.map Char.toNat ↔
    ∀ c ∈ cs, c.toNat < 0x10000 := by
  induction cs with
  | nil => simp
  | cons c cs ih =>
    rw [List.flatMap_cons, List.map_cons, List.forall_mem_cons, ← ih, units16]
    split
    · next hfirst => simp [hfirst]
    · next hbeyond =>
      have hvalid : c.toNat < 0xD800 ∨ 0xDFFF < c.toNat ∧ c.toNat < 0x110000 := c.valid
      constructor
      · intro h
        have hunit := (List.cons.inj h).1
        omega
      · rintro ⟨hfirst, -⟩
        exact absurd hfirst hbeyond

theorem units_eq_codePoints_iff : units s = codePoints s ↔ InFirstPlane s :=
  flatMap_units16_eq_iff

theorem inFirstPlane_append_iff {t : String} :
    InFirstPlane (s ++ t) ↔ InFirstPlane s ∧ InFirstPlane t := by
  rw [InFirstPlane, String.toList_append, List.forall_mem_append]
  rfl

/-- A literal stands for the text that it was written for if and only if this lies in the first
plane. -/
theorem value?_literal_eq_iff : value? (literal s) = some (codePoints s) ↔ InFirstPlane s := by
  rw [value?_literal, Option.some.injEq, units_eq_codePoints_iff]

example : value? (literal "a\"\n") = some [0x61, 0x22, 0xA] := by
  decide +kernel

end Units

end ApiStubs.Text
