import ApiStubs.Proofs.Toml.Escapes
import Mathlib.Data.List.Induction

/-! # Escapes by number

A pass goes from one escape by number to the next. An escape whose backslash is escaped itself is
left alone, until the first number has been read: from there on each one counts as a number.
-/

namespace ApiStubs.Toml

open Text

variable {c d ℓ : Char} {cs p out read w z first : List Char} {pieces : List (List Char)}
  {width n : Nat} {odd skip : Bool} {skips : List Char → Bool}

section Backslashes

/-- Whether an odd number of backslashes ends a text; `odd` says so of what stands before it. -/
def oddBehind (odd : Bool) : List Char → Bool
  | [] => odd
  | c :: cs => oddBehind (c = '\\' && !odd) cs

theorem oddBehind_append (odd : Bool) (p cs : List Char) :
    oddBehind odd (p ++ cs) = oddBehind (oddBehind odd p) cs := by
  induction p generalizing odd with
  | nil => rfl
  | cons c p ih => exact ih _

theorem oddBehind_of_not_mem (h : '\\' ∉ p) (hne : p ≠ []) : oddBehind odd p = false := by
  induction p generalizing odd with
  | nil => exact absurd rfl hne
  | cons c p ih =>
    obtain ⟨hc, hp⟩ := List.ne_and_not_mem_of_not_mem_cons h
    rw [oddBehind, decide_eq_false hc.symm, Bool.false_and]
    cases p with
    | nil => rfl
    | cons d p => exact ih hp (by simp)

theorem endsInOddBackslash_eq (cs : List Char) : endsInOddBackslash cs = oddBehind false cs := by
  induction cs using List.reverseRecOn with
  | nil => rfl
  | append_singleton cs c ih =>
    rw [oddBehind_append, ← ih]
    by_cases hc : c = '\\'
    · simp only [endsInOddBackslash, oddBehind, hc, List.reverse_append, List.reverse_singleton,
        List.singleton_append, List.takeWhile_cons, List.length_cons, decide_true, if_true,
        Bool.true_and]
      generalize (cs.reverse.takeWhile (· = '\\')).length = n
      rcases Nat.mod_two_eq_zero_or_one n with hn | hn <;> simp [hn, Nat.add_mod]
    · simp [endsInOddBackslash, oddBehind, hc]

/-- A character leaves no backslash behind that would escape anything. -/
theorem Spelling.oddBehind (h : Spelling read c p) : oddBehind false p = false := by
  cases h with
  | plain hc =>
    refine oddBehind_of_not_mem (fun hmem => hc ?_) (by simp)
    exact List.mem_singleton.mp hmem ▸ List.mem_cons_self
  | slash => rfl
  | letter hd => simp [Toml.oddBehind, (ne_of_mem_letters hd).2.1]
  | number hℓ =>
    simp only [Toml.oddBehind, decide_true, Bool.not_false, Bool.and_true, Bool.not_true,
      Bool.and_false]
    cases hdigits : hex (widthOf _) c.toNat with
    | nil => rfl
    | cons d ds => 
      refine oddBehind_of_not_mem ?_ (by simp)
      exact hdigits ▸ not_mem_hex (by decide)

end Backslashes

section Steps

/-- Reads on in a text. What stands before its first escape decides whether that one is skipped. -/
def readOn? (ℓ : Char) (width : Nat) (skips : List Char → Bool) (cs : List Char) :
    Option (List Char) :=
  match splitAtEscape ℓ cs with
  | [] => some cs
  | first :: pieces => numbersRead? ℓ width (skips first) first pieces

theorem readNumbers?_eq (ℓ : Char) (width : Nat) (cs : List Char) :
    readNumbers? ℓ width cs = readOn? ℓ width (oddBehind false) cs := by
  rw [readNumbers?, readOn?]
  cases splitAtEscape ℓ cs with
  | nil => rfl
  | cons first pieces =>
    dsimp only
    rw [endsInOddBackslash_eq]

theorem readOn?_eq (h : splitAtEscape ℓ cs = first :: pieces) :
    readOn? ℓ width skips cs = numbersRead? ℓ width (skips first) first pieces := by
  rw [readOn?, h]

/-- What has been read stays in front of what is read later. -/
theorem numbersRead?_append (p read : List Char) (pieces : List (List Char)) :
    numbersRead? ℓ width skip (p ++ read) pieces =
      (numbersRead? ℓ width skip read pieces).map (p ++ ·) := by
  induction pieces generalizing skip read with
  | nil => cases skip <;> rfl
  | cons piece pieces ih =>
    cases skip with
    | true => rw [numbersRead?, numbersRead?, List.append_assoc, ih]
    | false =>
      simp only [numbersRead?, List.append_assoc, ih]
      cases codePoint? (piece.take width) <;> rfl

theorem readOn?_nil : readOn? ℓ width skips [] = some [] := by
  simp [readOn?, splitAtEscape, numbersRead?]

/-- A text in which no escape starts stays as it is. -/
theorem readOn?_append (width : Nat) (skips : List Char → Bool)
    (h : splitAtEscape ℓ (p ++ z) = (splitAtEscape ℓ z).modifyHead (p ++ ·)) :
    readOn? ℓ width skips (p ++ z) =
      (readOn? ℓ width (fun first => skips (p ++ first)) z).map (p ++ ·) := by
  cases hz : splitAtEscape ℓ z with
  | nil => exact absurd hz (splitAtEscape_ne_nil ℓ z)
  | cons first pieces =>
    rw [hz] at h
    rw [readOn?_eq h, readOn?_eq hz, numbersRead?_append]

theorem readOn?_skipped (h : skips [] = true) (cs : List Char) :
    readOn? ℓ width skips ('\\' :: ℓ :: cs) =
      (readOn? ℓ width (oddBehind false) cs).map ('\\' :: ℓ :: ·) := by
  cases hcs : splitAtEscape ℓ cs with
  | nil => exact absurd hcs (splitAtEscape_ne_nil ℓ cs)
  | cons first pieces =>
    rw [readOn?_eq (splitAtEscape_escape ℓ cs), readOn?_eq hcs, hcs, h, numbersRead?,
      endsInOddBackslash_eq]
    exact numbersRead?_append ['\\', ℓ] first pieces

theorem splitAtEscape_append (h : '\\' ∉ p) (z : List Char) :
    splitAtEscape ℓ (p ++ z) = (splitAtEscape ℓ z).modifyHead (p ++ ·) := by
  induction p with
  | nil => rw [List.nil_append]; cases splitAtEscape ℓ z <;> rfl
  | cons c p ih =>
    obtain ⟨hc, hp⟩ := List.ne_and_not_mem_of_not_mem_cons h
    rw [List.cons_append, splitAtEscape_cons fun he => hc he.1.symm, ih hp]
    cases splitAtEscape ℓ z <;> rfl

/-- The digits behind an escape are read as a character. -/
theorem readOn?_number (h : skips [] = false) (hdigits : '\\' ∉ p)
    (hc : codePoint? p = some c) (z : List Char) :
    readOn? ℓ p.length skips ('\\' :: ℓ :: (p ++ z)) =
      (readOn? ℓ p.length (fun _ => false) z).map (c :: ·) := by
  cases hz : splitAtEscape ℓ z with
  | nil => exact absurd hz (splitAtEscape_ne_nil ℓ z)
  | cons first pieces =>
    rw [readOn?_eq (splitAtEscape_escape ℓ _), splitAtEscape_append hdigits, hz, readOn?_eq hz, h]
    simp only [List.modifyHead_cons, numbersRead?, List.take_left, hc, List.drop_left,
      Option.bind_eq_bind, Option.bind_some]
    exact numbersRead?_append [c] first pieces

end Steps

section Characters

theorem length_hex (width n : Nat) : (hex width n).length = width := by
  induction width generalizing n with
  | zero => rfl
  | succ width ih => rw [hex, List.length_append, ih, List.length_singleton]

theorem startsCodePoint_hexDigits {a b : Nat} (ha : a < 16) (hb : b < 16) (h : a ≠ 13 ∨ b < 8)
    (rest : List Char) : startsCodePoint (hexDigit a :: hexDigit b :: rest) = true := by
  have hdigits : ∀ a < 16, ∀ b < 16, a ≠ 13 ∨ b < 8 →
      ((hexDigit a).toLower != 'd' || ('0' ≤ hexDigit b && hexDigit b ≤ '7')) = true := by decide
  exact hdigits a ha b hb h

theorem isValidChar_toNat (c : Char) : c.toNat.isValidChar := c.valid

/-- The number of a character is read as that character. -/
theorem codePoint?_hex (h : numbered? c = some ℓ) (hℓ : ℓ ≠ 'x') :
    codePoint? (hex (widthOf ℓ) c.toNat) = some c := by
  have hvalid : c.toNat < 0xD800 ∨ 0xDFFF < c.toNat ∧ c.toNat < 0x110000 := c.valid
  have hlt := toNat_lt_of_numbered? h
  have hstart : startsCodePoint (hex (widthOf ℓ) c.toNat) = true := by
    have hletter := mem_of_numbered? h
    simp only [List.mem_cons, hℓ, List.not_mem_nil, or_false, false_or] at hletter
    rcases hletter with rfl | rfl
    · have hwidth : widthOf 'u' = 4 := rfl
      rw [hwidth] at hlt ⊢
      exact startsCodePoint_hexDigits (Nat.mod_lt _ (by decide)) (Nat.mod_lt _ (by decide))
        (by omega) _
    · have hwidth : widthOf 'U' = 8 := rfl
      rw [hwidth]
      exact startsCodePoint_hexDigits (Nat.mod_lt _ (by decide)) (Nat.mod_lt _ (by decide))
        (by omega) _
  rw [codePoint?, hexNumber?_hex, Nat.mod_eq_of_lt hlt]
  simp [hstart, isValidChar_toNat]

end Characters

section Passes

/-- No backslash stands before the letter of an escape by number where such an escape has been
written before it. -/
def InOrder (ℓ : Char) : List Char → Prop
  | [] => True
  | c :: cs => (numbered? c = some ℓ → contains ['\\', ℓ] cs = false) ∧ InOrder ℓ cs

instance decidableInOrder (ℓ : Char) : (cs : List Char) → Decidable (InOrder ℓ cs)
  | [] => inferInstanceAs (Decidable True)
  | c :: cs =>
    have := decidableInOrder ℓ cs
    inferInstanceAs (Decidable ((numbered? c = some ℓ → contains ['\\', ℓ] cs = false) ∧
      InOrder ℓ cs))

theorem splitAtEscape_pair (hd : d ≠ ℓ) (hz : d = '\\' → z.head? ≠ some ℓ) :
    splitAtEscape ℓ ('\\' :: d :: z) = (splitAtEscape ℓ z).modifyHead ('\\' :: d :: ·) := by
  have hfirst : ¬('\\' = '\\' ∧ (d :: z).head? = some ℓ) := fun he => hd (Option.some.inj he.2)
  have hsecond : ¬(d = '\\' ∧ z.head? = some ℓ) := fun he => hz he.1 he.2
  rw [splitAtEscape_cons hfirst, splitAtEscape_cons hsecond, List.modifyHead_modifyHead]
  rfl

/-- The spelling of a character whose number is not read in a pass stays as it is. -/
theorem readOn?_spelling (h : Spelling read c p) (hℓ : ℓ ∈ ['u', 'U'])
    (hc : numbered? c = some ℓ → ℓ ∈ read) (hz : c = '\\' → z.head? ≠ some ℓ) :
    readOn? ℓ width skips (p ++ z) =
      (readOn? ℓ width (fun first => skips (p ++ first)) z).map (p ++ ·) := by
  have hslash : ℓ ≠ '\\' := by rintro rfl; exact absurd hℓ (by decide)
  refine readOn?_append width skips ?_
  cases h with
  | plain hc =>
    refine splitAtEscape_append (fun hmem => hc ?_) z
    exact List.mem_singleton.mp hmem ▸ List.mem_cons_self
  | slash hc => exact splitAtEscape_pair hslash.symm fun _ => hz hc
  | letter hd =>
    obtain ⟨-, hback, hletter⟩ := ne_of_mem_letters hd
    exact splitAtEscape_pair (fun he => hletter (he ▸ .tail _ hℓ)) fun he => absurd he hback
  | @number k hk hread =>
    have hne : k ≠ ℓ := by rintro rfl; exact hread (hc hk)
    rw [List.cons_append, List.cons_append,
      splitAtEscape_pair hne fun he => absurd he (ne_of_numbered? hk).2,
      splitAtEscape_append (not_mem_hex (by decide)), List.modifyHead_modifyHead]
    rfl

theorem spelt_cons_of_numbered? (h : numbered? c = some ℓ) : spelt (ℓ :: read) c = [c] := by
  rw [spelt, if_pos (by simp [h])]

theorem spelt_cons_of_ne (h : numbered? c ≠ some ℓ) : spelt (ℓ :: read) c = spelt read c := by
  simp [spelt, h]

/-- The spelling of a character whose number is read becomes the character. -/
theorem readOn?_numbered (hc : numbered? c = some ℓ) (hℓ : ℓ ∈ ['u', 'U']) (hread : ℓ ∉ read)
    (hskips : skips [] = false) (z : List Char) :
    readOn? ℓ (widthOf ℓ) skips (spelt read c ++ z) =
      (readOn? ℓ (widthOf ℓ) (fun _ => false) z).map (spelt (ℓ :: read) c ++ ·) := by
  have hx : ℓ ≠ 'x' := by rintro rfl; exact absurd hℓ (by decide)
  have hspelt : spelt read c = '\\' :: ℓ :: hex (widthOf ℓ) c.toNat := by
    rw [spelt, if_neg (by simpa [hc] using hread), quotedChar_of_not_mem (not_mem_of_numbered? hc),
      hc]
  have hstep := readOn?_number (ℓ := ℓ) hskips (not_mem_hex (by decide)) (codePoint?_hex hc hx) z
  rw [length_hex] at hstep
  rw [hspelt, spelt_cons_of_numbered? hc]
  exact hstep

theorem head?_flatMap_spelt (hℓ : ℓ ∈ ['u', 'U']) (hz : z.head? ≠ some ℓ) :
    (cs.flatMap (spelt read) ++ z).head? = some ℓ ↔ cs.head? = some ℓ := by
  cases cs with
  | nil => simpa using hz
  | cons c cs =>
    rw [List.flatMap_cons, List.append_assoc, head?_spelt_append (isPlain_of_letter (.tail _ hℓ))]
    simp

/-- One character of a written text is behind the pass. -/
theorem readOn?_step (hℓ : ℓ ∈ ['u', 'U']) (hc : numbered? c ≠ some ℓ)
    (hnext : ¬(c = '\\' ∧ cs.head? = some ℓ)) (hz : z.head? ≠ some ℓ) :
    readOn? ℓ width skips ((c :: cs).flatMap (spelt read) ++ z) =
      (readOn? ℓ width (fun first => skips (spelt read c ++ first))
        (cs.flatMap (spelt read) ++ z)).map (spelt (ℓ :: read) c ++ ·) := by
  have hhead : c = '\\' → (cs.flatMap (spelt read) ++ z).head? ≠ some ℓ := fun he =>
    mt (head?_flatMap_spelt hℓ hz).mp fun h => hnext ⟨he, h⟩
  rw [List.flatMap_cons, List.append_assoc,
    readOn?_spelling (spelling read c) hℓ (fun he => absurd he hc) hhead, spelt_cons_of_ne hc]

/-- From the first number on the pass reads every number, if no other escape seems to be one. -/
theorem readOn?_armed (hℓ : ℓ ∈ ['u', 'U']) (hread : ℓ ∉ read)
    (hcs : contains ['\\', ℓ] cs = false) (hz : z.head? ≠ some ℓ) :
    readOn? ℓ (widthOf ℓ) (fun _ => false) (cs.flatMap (spelt read) ++ z) =
      (readOn? ℓ (widthOf ℓ) (fun _ => false) z).map (cs.flatMap (spelt (ℓ :: read)) ++ ·) := by
  induction cs with
  | nil => simp
  | cons c cs ih =>
    rw [contains_cons, Bool.or_eq_false_iff, decide_eq_false_iff_not] at hcs
    by_cases hc : numbered? c = some ℓ
    · rw [List.flatMap_cons, List.append_assoc, readOn?_numbered hc hℓ hread rfl, ih hcs.2,
        Option.map_map]
      simp [Function.comp_def]
    · rw [readOn?_step hℓ hc hcs.1 hz, ih hcs.2, Option.map_map]
      simp [Function.comp_def]

theorem readOn?_of_not_mem (h : '\\' ∉ z) : readOn? ℓ width skips z = some z := by
  have hstep := readOn?_append width skips
    (splitAtEscape_append (ℓ := ℓ) h [])
  rwa [List.append_nil, readOn?_nil, Option.map_some, List.append_nil] at hstep

/-- Before the first number a backslash that is escaped itself starts no number. -/
theorem readOn?_slash (hℓ : ℓ ∈ ['u', 'U']) (z : List Char) :
    readOn? ℓ width (oddBehind false) ('\\' :: '\\' :: z) =
      (readOn? ℓ width (oddBehind false) z).map ('\\' :: '\\' :: ·) := by
  have hslash : ℓ ≠ '\\' := by rintro rfl; exact absurd hℓ (by decide)
  by_cases hz : z.head? = some ℓ
  · obtain ⟨z, rfl⟩ := List.head?_eq_some_iff.mp hz
    have hfirst : ¬('\\' = '\\' ∧ ('\\' :: ℓ :: z).head? = some ℓ) := fun he =>
      hslash (Option.some.inj he.2).symm
    have hbehind : readOn? ℓ width (oddBehind false) ('\\' :: '\\' :: ℓ :: z) =
        (readOn? ℓ width (oddBehind true) ('\\' :: ℓ :: z)).map ('\\' :: ·) :=
      readOn?_append (p := ['\\']) width (oddBehind false) (splitAtEscape_cons hfirst)
    have hskips : (fun first => oddBehind false ([ℓ] ++ first)) = oddBehind false := by
      funext first
      simp [oddBehind, hslash]
    have hletter := readOn?_append width (oddBehind false)
      (splitAtEscape_append (ℓ := ℓ) (p := [ℓ]) (by simpa using hslash.symm) z)
    rw [hskips, List.singleton_append] at hletter
    rw [hbehind, readOn?_skipped rfl, hletter, Option.map_map, Option.map_map]
    rfl
  · exact readOn?_append (p := ['\\', '\\']) width (oddBehind false)
      (splitAtEscape_pair hslash.symm fun _ => hz)

/-- Before the first number the pass leaves a character that has another spelling. -/
theorem readOn?_unarmed_step (hℓ : ℓ ∈ ['u', 'U']) (hc : numbered? c ≠ some ℓ) (z : List Char) :
    readOn? ℓ width (oddBehind false) (spelt read c ++ z) =
      (readOn? ℓ width (oddBehind false) z).map (spelt (ℓ :: read) c ++ ·) := by
  rw [spelt_cons_of_ne hc]
  by_cases hslash : c = '\\'
  · subst hslash
    rw [spelt_slash]
    exact readOn?_slash hℓ z
  · have hskips : (fun first => oddBehind false (spelt read c ++ first)) = oddBehind false := by
      funext first
      rw [oddBehind_append, (spelling read c).oddBehind]
    rw [readOn?_spelling (spelling read c) hℓ (fun he => absurd he hc) fun he => absurd he hslash,
      hskips]

/-- The whole pass reads every number and nothing else. -/
theorem readOn?_unarmed (hℓ : ℓ ∈ ['u', 'U']) (hread : ℓ ∉ read) (hcs : InOrder ℓ cs)
    (hz : z.head? ≠ some ℓ) (hplain : '\\' ∉ z) :
    readOn? ℓ (widthOf ℓ) (oddBehind false) (cs.flatMap (spelt read) ++ z) =
      some (cs.flatMap (spelt (ℓ :: read)) ++ z) := by
  induction cs with
  | nil => exact readOn?_of_not_mem hplain
  | cons c cs ih =>
    rw [List.flatMap_cons, List.append_assoc]
    by_cases hc : numbered? c = some ℓ
    · rw [readOn?_numbered hc hℓ hread rfl, readOn?_armed hℓ hread (hcs.1 hc) hz,
        readOn?_of_not_mem hplain]
      simp
    · rw [readOn?_unarmed_step hℓ hc, ih hcs.2]
      simp

/-- The mark of a value stays as it is. -/
theorem readNumbers?_mark (ℓ : Char) (width : Nat) (z : List Char) :
    readNumbers? ℓ width ('"' :: z) = (readOn? ℓ width (oddBehind false) z).map ('"' :: ·) := by
  rw [readNumbers?_eq]
  exact readOn?_append width (oddBehind false)
    (splitAtEscape_append (p := ['"']) (by decide) z)

theorem head?_mark_ne (hℓ : ℓ ∈ ['u', 'U']) : ['"'].head? ≠ some ℓ := by
  intro he
  exact absurd hℓ (Option.some.inj he ▸ by decide)

/-- A pass over a value leaves its characters, with one more kind of number read. -/
theorem readNumbers?_spelt (read : List Char) (hℓ : ℓ ∈ ['u', 'U']) (hread : ℓ ∉ read)
    (hcs : InOrder ℓ cs) :
    readNumbers? ℓ (widthOf ℓ) ('"' :: (cs.flatMap (spelt read) ++ ['"'])) =
      some ('"' :: (cs.flatMap (spelt (ℓ :: read)) ++ ['"'])) := by
  rw [readNumbers?_mark, readOn?_unarmed hℓ hread hcs (head?_mark_ne hℓ) (by decide)]
  rfl

end Passes

end ApiStubs.Toml
