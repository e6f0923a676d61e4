import ApiStubs.Json.Reader
import ApiStubs.Text.Literal
import Mathlib.Algebra.Group.Nat.Defs

/-! # Reading a string literal

A literal is a string of the JSON format, so the reader of that format finds the text that it was
written for, and where the literal ends. The reader takes one step for each character, since the two
escapes of a character beyond the first plane are read as one.
-/

namespace ApiStubs

variable {c : Char} {cs rest read : List Char} {fuel n : Nat}

namespace Text

theorem hexValue?_hexDigit : ∀ k < 16, hexValue? (hexDigit k) = some k := by
  decide

theorem hexNumber?_append (cs : List Char) (c : Char) :
    hexNumber? (cs ++ [c]) =
      (hexNumber? cs).bind fun n => (hexValue? c).bind fun k => some (n * 16 + k) := by
  rw [hexNumber?, List.foldl_append, ← hexNumber?]
  rfl

/-- A number is read back from its digits as far as there are any. -/
theorem hexNumber?_hex (width n : Nat) : hexNumber? (hex width n) = some (n % 16 ^ width) := by
  induction width generalizing n with
  | zero => simp [hex, hexNumber?, Nat.mod_one]
  | succ width ih =>
    have hdigit := hexValue?_hexDigit (n % 16) (Nat.mod_lt n (by decide))
    rw [hex, hexNumber?_append, ih, hdigit, Nat.pow_succ', Nat.mod_mul]
    simp only [Option.bind_some, Option.some.injEq]
    omega

end Text

namespace Json

open Text

theorem unit?_hex (h : n < 0x10000) (rest : List Char) :
    unit? (hex 4 n ++ rest) = some (n, rest) := by
  have hdigits : n < 16 ^ 4 := h
  have hnumber : hexNumber? (hex 4 n) = some n := by
    rw [hexNumber?_hex, Nat.mod_eq_of_lt hdigits]
  have hunit : unit? (hex 4 n ++ rest) = (hexNumber? (hex 4 n)).map (·, rest) := rfl
  rw [hunit, hnumber, Option.map_some]

/-- One unit that belongs to no pair is a character. -/
theorem escaped?_single (hfirst : c.toNat < 0x10000) (rest : List Char) :
    escaped? (hex 4 c.toNat ++ rest) = some (c, rest) := by
  have hvalid : c.toNat < 0xD800 ∨ 0xDFFF < c.toNat ∧ c.toNat < 0x110000 := c.valid
  have hhigh : ¬(0xD800 ≤ c.toNat ∧ c.toNat < 0xDC00) := by omega
  have hlow : ¬(0xDC00 ≤ c.toNat ∧ c.toNat < 0xE000) := by omega
  simp only [escaped?, unit?_hex hfirst, Option.bind_eq_bind, Option.bind_some, if_neg hhigh,
    if_neg hlow, Char.ofNat_toNat]

/-- A unit of the upper half and one of the lower half are a character. -/
theorem escaped?_pair {u v : Nat} (hhigh : 0xD800 ≤ u ∧ u < 0xDC00)
    (hlow : 0xDC00 ≤ v ∧ v < 0xE000)
    (hpair : 0x10000 + (u - 0xD800) * 0x400 + (v - 0xDC00) = c.toNat) (rest : List Char) :
    escaped? (hex 4 u ++ '\\' :: 'u' :: (hex 4 v ++ rest)) = some (c, rest) := by
  have hfirst : u < 0x10000 := by omega
  have hsecond : v < 0x10000 := by omega
  simp only [escaped?, unit?_hex hfirst, unit?_hex hsecond, Option.bind_eq_bind,
    Option.bind_some, if_pos hhigh, if_pos hlow, hpair, Char.ofNat_toNat]

/-- The escapes of a character are read as that character, from behind the first `u` on. -/
theorem escaped?_units16 (c : Char) (rest : List Char) :
    ∃ more, ((units16 c.toNat).flatMap fun u => '\\' :: 'u' :: hex 4 u) ++ rest =
        '\\' :: 'u' :: more ∧ escaped? more = some (c, rest) := by
  unfold units16
  split
  · next hfirst => exact ⟨hex 4 c.toNat ++ rest, by simp, escaped?_single hfirst rest⟩
  · next hbeyond =>
    have hvalid : c.toNat < 0xD800 ∨ 0xDFFF < c.toNat ∧ c.toNat < 0x110000 := c.valid
    generalize hu : 0xD800 + (c.toNat - 0x10000) / 0x400 = u
    generalize hv : 0xDC00 + (c.toNat - 0x10000) % 0x400 = v
    have hhigh : 0xD800 ≤ u ∧ u < 0xDC00 := by omega
    have hlow : 0xDC00 ≤ v ∧ v < 0xE000 := by omega
    have hpair : 0x10000 + (u - 0xD800) * 0x400 + (v - 0xDC00) = c.toNat := by omega
    exact ⟨hex 4 u ++ '\\' :: 'u' :: (hex 4 v ++ rest), by simp,
      escaped?_pair hhigh hlow hpair rest⟩

section Step

theorem string?_letter {d : Char} (h : letter? c = some d) :
    string? (fuel + 1) read ('\\' :: c :: rest) = string? fuel (d :: read) rest := by
  have hu : c ≠ 'u' := by
    rintro rfl
    have hnone : letter? 'u' = none := by decide
    rw [hnone] at h
    cases h
  simp [string?, h]

theorem string?_number (h : escaped? cs = some (c, rest)) :
    string? (fuel + 1) read ('\\' :: 'u' :: cs) = string? fuel (c :: read) rest := by
  simp [string?, h]

theorem string?_plain (hmark : c ≠ '"') (hslash : c ≠ '\\') (h : ' ' ≤ c) :
    string? (fuel + 1) read (c :: rest) = string? fuel (c :: read) rest := by
  have hcontrol : ¬c.toNat < 0x20 := Nat.not_lt.mpr h
  simp [string?, hslash, hcontrol]

/-- What a character is written as is read in one step. -/
theorem string?_literalChar (c : Char) (fuel : Nat) (read rest : List Char) :
    string? (fuel + 1) read (literalChar c ++ rest) = string? fuel (c :: read) rest := by
  unfold literalChar
  split
  · next hc => rcases hc with rfl | rfl <;> exact string?_letter (by decide)
  split
  · next hc => exact hc ▸ string?_letter (by decide)
  split
  · next hc => exact hc ▸ string?_letter (by decide)
  split
  · next hc => exact hc ▸ string?_letter (by decide)
  split
  · next hc => exact hc ▸ string?_letter (by decide)
  split
  · next hc => exact hc ▸ string?_letter (by decide)
  split
  · next hmarks _ _ _ _ _ hc =>
    exact string?_plain (fun h => hmarks (.inl h)) (fun h => hmarks (.inr h)) hc.1
  · obtain ⟨more, hmore, hescaped⟩ := escaped?_units16 c rest
    rw [hmore]
    exact string?_number hescaped

end Step

/-- By induction on the text that was written, with the characters read so far. -/
theorem string?_flatMap (hfuel : cs.length < fuel) (read rest : List Char) :
    string? fuel read (cs.flatMap literalChar ++ '"' :: rest) =
      some (String.ofList (read.reverse ++ cs), rest) := by
  induction cs generalizing fuel read with
  | nil =>
    obtain ⟨fuel, rfl⟩ := Nat.exists_eq_succ_of_ne_zero (Nat.ne_of_gt hfuel)
    simp [string?]
  | cons c cs ih =>
    obtain ⟨fuel, rfl⟩ := Nat.exists_eq_succ_of_ne_zero (Nat.ne_of_gt (Nat.zero_lt_of_lt hfuel))
    rw [List.flatMap_cons, List.append_assoc, string?_literalChar,
      ih (Nat.lt_of_succ_lt_succ hfuel), List.reverse_cons, List.append_assoc,
      List.singleton_append]

end Json

namespace Text

/-- The text of the literal at the start of some characters, and the rest. -/
def readLiteral? : List Char → Option (String × List Char)
  | '"' :: cs => Json.string? (cs.length + 1) [] cs
  | _ => none

theorem literalChar_ne_nil (c : Char) : literalChar c ≠ [] := by
  intro hnil
  have hstep := Json.string?_literalChar c 1 [] ['"']
  rw [hnil] at hstep
  simp [Json.string?] at hstep

theorem length_le_length_flatMap (cs : List Char) :
    cs.length ≤ (cs.flatMap literalChar).length := by
  induction cs with
  | nil => exact Nat.le_refl 0
  | cons c cs ih =>
    have hc := List.length_pos_iff.mpr (literalChar_ne_nil c)
    rw [List.length_cons, List.flatMap_cons, List.length_append]
    omega

/-- Whatever comes behind a literal, it is read as the text that it was written for. -/
theorem readLiteral?_literal (s : String) (rest : List Char) :
    readLiteral? ((literal s).toList ++ rest) = some (s, rest) := by
  have htext : (literal s).toList ++ rest =
      '"' :: (s.toList.flatMap literalChar ++ '"' :: rest) := by
    simp [literal]
  have hfuel : s.toList.length < (s.toList.flatMap literalChar ++ '"' :: rest).length + 1 := by
    have hlength := length_le_length_flatMap s.toList
    rw [List.length_append]
    omega
  rw [htext, readLiteral?, Json.string?_flatMap hfuel, List.reverse_nil, List.nil_append,
    String.ofList_toList]

end Text

end ApiStubs
