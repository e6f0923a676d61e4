import ApiStubs.Proofs.Spec.WrittenPointers
import ApiStubs.Proofs.Text.Literal
import ApiStubs.Proofs.Text.Rows
import ApiStubs.Toml.StringValue
import Mathlib.Data.Bool.AllAny

/-! # Spellings of a character

A text is written character by character, each one as it is, behind a backslash, or by its number.
A reader takes the escapes by number kind by kind, so between its passes some characters stand as
they are that were written by their numbers.
-/

namespace ApiStubs.Toml

open Text

variable {c d ℓ : Char} {cs read w z : List Char} {width n : Nat}

/-- The letter of the escape by number with which a character is written, if it is written so. -/
def numbered? (c : Char) : Option Char :=
  if c = '\n' ∨ c = '\r' ∨ c = '\t' ∨ Character.isPrintable c = true then none
  else if c.toNat < 0x100 then some 'x'
  else if c.toNat < 0x10000 then some 'u'
  else some 'U'

/-- The digits of an escape by number. -/
def widthOf (ℓ : Char) : Nat :=
  if ℓ = 'x' then 2 else if ℓ = 'u' then 4 else 8

/-- What stands for a character when the escapes by number with some letters have been read. -/
def spelt (read : List Char) (c : Char) : List Char :=
  if numbered? c ∈ read.map some then [c] else quotedChar '"' c

/-- The ways in which a character is spelt. -/
inductive Spelling (read : List Char) (c : Char) : List Char → Prop
  | plain : c ∉ ['\\', '"', '\n', '\r', '\t'] → (∀ ℓ ∈ numbered? c, ℓ ∈ read) →
      Spelling read c [c]
  | slash : c = '\\' → Spelling read c ['\\', '\\']
  | letter {d : Char} : d ∈ ['"', 'n', 'r', 't'] → escapedChar? d = some c →
      Spelling read c ['\\', d]
  | number {ℓ : Char} : numbered? c = some ℓ → ℓ ∉ read →
      Spelling read c ('\\' :: ℓ :: hex (widthOf ℓ) c.toNat)

theorem numbered?_of_mem (h : c ∈ ['\\', '"', '\n', '\r', '\t']) : numbered? c = none := by
  have hspecial : ∀ c ∈ ['\\', '"', '\n', '\r', '\t'], numbered? c = none :=
    List.all_iff_forall_prop.mp (by decide)
  exact hspecial c h

theorem mem_of_numbered? (h : numbered? c = some ℓ) : ℓ ∈ ['x', 'u', 'U'] := by
  unfold numbered? at h
  split at h
  · cases h
  · split at h
    · cases h; decide
    · split at h <;> cases h <;> decide

theorem not_mem_of_numbered? (h : numbered? c = some ℓ) : c ∉ ['\\', '"', '\n', '\r', '\t'] := by
  intro hmem
  rw [numbered?_of_mem hmem] at h
  cases h

theorem ne_slash_of_numbered? (h : numbered? c = some ℓ) : c ≠ '\\' :=
  fun he => not_mem_of_numbered? h (he ▸ List.mem_cons_self)

/-- The characters that have a letter for an escape and are no backslash. -/
theorem mem_of_letter (hd : d ∈ ['"', 'n', 'r', 't']) (hc : escapedChar? d = some c) :
    c ∈ ['"', '\n', '\r', '\t'] := by
  have hletters : ∀ d ∈ ['"', 'n', 'r', 't'],
      escapedChar? d ∈ ['"', '\n', '\r', '\t'].map some := List.all_iff_forall_prop.mp (by decide)
  have hmem := hletters d hd
  rw [hc] at hmem
  simpa using hmem

/-- The number of a character has no more digits than its escape. -/
theorem toNat_lt_of_numbered? (h : numbered? c = some ℓ) : c.toNat < 16 ^ widthOf ℓ := by
  have hvalid : c.toNat < 0xD800 ∨ 0xDFFF < c.toNat ∧ c.toNat < 0x110000 := c.valid
  unfold numbered? at h
  split at h
  · cases h
  · split at h
    · next hlow => cases h; exact hlow
    · split at h
      · next hfirst => cases h; exact hfirst
      · cases h
        have hwide : 16 ^ widthOf 'U' = 0x100000000 := by decide
        omega

/-- A character that has no letter for an escape is written as it is or by its number. -/
theorem quotedChar_of_not_mem (h : c ∉ ['\\', '"', '\n', '\r', '\t']) :
    quotedChar '"' c = match numbered? c with
      | some ℓ => '\\' :: ℓ :: hex (widthOf ℓ) c.toNat
      | none => [c] := by
  obtain ⟨hslash, hmark, hline, hreturn, htab⟩ : c ≠ '\\' ∧ c ≠ '"' ∧ c ≠ '\n' ∧ c ≠ '\r' ∧
      c ≠ '\t' := by simpa using h
  by_cases hp : Character.isPrintable c = true
  · simp [quotedChar, numbered?, *]
  · by_cases hlow : c.toNat < 0x100
    · simp [quotedChar, numbered?, widthOf, *]
    · by_cases hfirst : c.toNat < 0x10000 <;> simp [quotedChar, numbered?, widthOf, *]

/-- A character that is written as it is. -/
def IsPlain (c : Char) : Prop :=
  c ∉ ['\\', '"', '\n', '\r', '\t'] ∧ numbered? c = none

theorem spelt_of_isPlain (h : IsPlain c) : spelt read c = [c] := by
  rw [spelt, quotedChar_of_not_mem h.1, h.2]
  simp

theorem isPlain_of_letter (h : ℓ ∈ ['x', 'u', 'U']) : IsPlain ℓ := by
  have hletters : ∀ ℓ ∈ ['x', 'u', 'U'],
      ℓ ∉ ['\\', '"', '\n', '\r', '\t'] ∧ numbered? ℓ = none :=
    List.all_iff_forall_prop.mp (by decide)
  exact hletters ℓ h

theorem spelt_slash : spelt read '\\' = ['\\', '\\'] := by
  rw [spelt, numbered?_of_mem List.mem_cons_self, if_neg (by simp)]
  rfl

theorem spelling (read : List Char) (c : Char) : Spelling read c (spelt read c) := by
  by_cases hspecial : c ∈ ['\\', '"', '\n', '\r', '\t']
  · have hnumber := numbered?_of_mem hspecial
    rw [spelt, if_neg (by simp [hnumber])]
    simp only [List.mem_cons, List.not_mem_nil, or_false] at hspecial
    rcases hspecial with rfl | rfl | rfl | rfl | rfl
    · exact .slash rfl
    · exact .letter (by decide) rfl
    · exact .letter (by decide) rfl
    · exact .letter (by decide) rfl
    · exact .letter (by decide) rfl
  · rw [spelt, quotedChar_of_not_mem hspecial]
    cases hnumber : numbered? c with
    | none =>
      rw [if_neg (by simp)]
      exact .plain hspecial (by simp [hnumber])
    | some ℓ =>
      by_cases hread : ℓ ∈ read
      · rw [if_pos (by simpa using hread)]
        refine .plain hspecial fun k hk => ?_
        rwa [← Option.some.inj (hnumber.symm.trans hk)]
      · rw [if_neg (by simpa using hread)]
        exact .number hnumber hread

/-- Before any number has been read a character stands as it is written. -/
theorem quotedChar_eq_spelt : quotedChar '"' = spelt [] :=
  funext fun _ => (if_neg (by simp)).symm

theorem spelling_quoted (c : Char) : Spelling [] c (quotedChar '"' c) :=
  quotedChar_eq_spelt ▸ spelling [] c

/-- A digit of a number is no character that means anything in an escape. -/
theorem not_mem_hex (h : hexValue? d = none) : d ∉ hex width n := by
  intro hd
  obtain ⟨k, hk, rfl⟩ := mem_hex hd
  rw [hexValue?_hexDigit k hk] at h
  cases h

section Writing

/-- Between single quotes the same characters are escaped as between double ones, apart from the two
marks themselves. -/
theorem quotedChar_single (hsingle : c ≠ '\'') (hdouble : c ≠ '"') :
    quotedChar '\'' c = quotedChar '"' c := by
  simp [quotedChar, hsingle, hdouble]

theorem replacePair_append {a b r : Char} {p : List Char} (h : a ∉ p) (z : List Char) :
    replacePair a b r (p ++ z) = p ++ replacePair a b r z := by
  induction p with
  | nil => rfl
  | cons x p ih =>
    obtain ⟨hx, hp⟩ := List.ne_and_not_mem_of_not_mem_cons h
    rw [List.cons_append, replacePair_cons_of_ne hx.symm, ih hp, List.cons_append]

/-- A spelling starts with the character or with a backslash. -/
theorem Spelling.exists_cons {p : List Char} (h : Spelling read c p) :
    ∃ d q, p = d :: q ∧ (d = c ∨ d = '\\') := by
  cases h with
  | plain => exact ⟨c, [], rfl, .inl rfl⟩
  | slash => exact ⟨_, _, rfl, .inr rfl⟩
  | letter => exact ⟨_, _, rfl, .inr rfl⟩
  | number => exact ⟨_, _, rfl, .inr rfl⟩

theorem head?_quotedChar (h : d ∈ (quotedChar '\'' c ++ z).head?) : d ≠ '\'' := by
  by_cases hsingle : c = '\''
  · subst hsingle
    have hd : d = '\\' := by simpa [quotedChar, eq_comm] using h
    exact hd ▸ by decide
  by_cases hdouble : c = '"'
  · subst hdouble
    have hmark : quotedChar '\'' '"' = ['"'] := by decide
    have hd : d = '"' := by simpa [hmark, eq_comm] using h
    exact hd ▸ by decide
  obtain ⟨e, q, hq, he⟩ := (spelling_quoted c).exists_cons
  have hd : d = e := by simpa [quotedChar_single hsingle hdouble, hq, eq_comm] using h
  rcases he with rfl | rfl
  · exact hd ▸ hsingle
  · exact hd ▸ by decide

theorem ne_of_mem_letters (h : d ∈ ['"', 'n', 'r', 't']) :
    d ≠ '\'' ∧ d ≠ '\\' ∧ d ∉ ['x', 'u', 'U'] := by
  have hletters : ∀ d ∈ ['"', 'n', 'r', 't'], d ≠ '\'' ∧ d ≠ '\\' ∧ d ∉ ['x', 'u', 'U'] :=
    List.all_iff_forall_prop.mp (by decide)
  exact hletters d h

theorem ne_of_numbered? (h : numbered? c = some ℓ) : ℓ ≠ '\'' ∧ ℓ ≠ '\\' := by
  have hletters : ∀ ℓ ∈ ['x', 'u', 'U'], ℓ ≠ '\'' ∧ ℓ ≠ '\\' :=
    List.all_iff_forall_prop.mp (by decide)
  exact hletters ℓ (mem_of_numbered? h)

/-- Nothing is taken back in what stands for another character. -/
theorem Spelling.replacePair {p : List Char} (h : Spelling [] c p)
    (hz : ∀ d ∈ z.head?, d ≠ '\'') :
    replacePair '\\' '\'' '\'' (p ++ z) = p ++ replacePair '\\' '\'' '\'' z := by
  cases h with
  | plain hc =>
    refine replacePair_append (p := [c]) (fun hmem => hc ?_) z
    exact List.mem_singleton.mp hmem ▸ List.mem_cons_self
  | slash =>
    have hslash : Text.replacePair '\\' '\'' '\'' ('\\' :: z) =
        '\\' :: Text.replacePair '\\' '\'' '\'' z := by
      cases z with
      | nil => rfl
      | cons d z => exact replacePair_cons_cons_of_ne (hz d rfl) _ _ _ _
    rw [List.cons_append, List.cons_append, List.nil_append,
      replacePair_cons_cons_of_ne (by decide), hslash]
    rfl
  | @letter d hd =>
    obtain ⟨hsingle, hslash, -⟩ := ne_of_mem_letters hd
    rw [List.cons_append, List.cons_append, List.nil_append,
      replacePair_cons_cons_of_ne hsingle, replacePair_cons_of_ne hslash]
    rfl
  | @number ℓ hℓ =>
    have hne : ℓ ≠ '\'' ∧ ℓ ≠ '\\' := ne_of_numbered? hℓ
    rw [List.cons_append, List.cons_append, replacePair_cons_cons_of_ne hne.1,
      replacePair_cons_of_ne hne.2, replacePair_append (not_mem_hex (by decide))]
    rfl

/-- The mark is written for itself alone. -/
theorem Spelling.mark_not_mem {p : List Char} (h : Spelling read c p) (hdouble : c ≠ '"') :
    '"' ∉ p := by
  cases h with
  | plain => simpa using hdouble.symm
  | slash => decide
  | letter hd hc =>
    simp only [List.mem_cons, List.not_mem_nil, or_false, not_or]
    refine ⟨by decide, ?_⟩
    rintro rfl
    exact hdouble (Option.some.inj hc).symm
  | number hℓ =>
    have hletters : ∀ ℓ ∈ ['x', 'u', 'U'], '"' ≠ ℓ := List.all_iff_forall_prop.mp (by decide)
    simp only [List.mem_cons, not_or]
    exact ⟨by decide, hletters _ (mem_of_numbered? hℓ), not_mem_hex (by decide)⟩

/-- No line is broken in a spelling. -/
theorem Spelling.break_not_mem {p : List Char} (h : Spelling read c p) (hd : d ∈ ['\n', '\r']) :
    d ∉ p := by
  have hbreaks : ∀ d ∈ ['\n', '\r'], d ∈ ['\\', '"', '\n', '\r', '\t'] ∧ d ≠ '\\' ∧
      d ∉ ['"', 'n', 'r', 't'] ∧ d ∉ ['x', 'u', 'U'] ∧ hexValue? d = none :=
    List.all_iff_forall_prop.mp (by decide)
  obtain ⟨hspecial, hslash, hletters, hnumbers, hdigit⟩ := hbreaks d hd
  cases h with
  | plain hc => exact fun hmem => hc (List.mem_singleton.mp hmem ▸ hspecial)
  | slash => simpa using hslash
  | @letter k hk =>
    have hne : d ≠ k := fun he => hletters (he ▸ hk)
    simp [hslash, hne]
  | @number ℓ hℓ =>
    have hne : d ≠ ℓ := fun he => hnumbers (he ▸ mem_of_numbered? hℓ)
    simp only [List.mem_cons, not_or]
    exact ⟨hslash, hne, not_mem_hex hdigit⟩

/-- A text is written character by character, whichever mark its quoted form has. -/
theorem requoted_eq (cs : List Char) : requoted cs = cs.flatMap (quotedChar '"') := by
  unfold requoted
  split
  · next hmark =>
    rw [quotedBody, hmark]
    clear hmark
    induction cs with
    | nil => rfl
    | cons c cs ih =>
      have hhead : ∀ d ∈ (cs.flatMap (quotedChar '\'')).head?, d ≠ '\'' := by
        intro d hd
        cases cs with
        | nil => cases hd
        | cons e cs => exact head?_quotedChar (by rwa [List.flatMap_cons] at hd)
      simp only [List.flatMap_cons]
      by_cases hsingle : c = '\''
      · have hescaped : quotedChar '\'' '\'' = ['\\', '\''] := rfl
        have hplain : quotedChar '"' '\'' = ['\''] := by decide
        subst hsingle
        rw [hescaped, hplain, List.cons_append, List.singleton_append, replacePair_cons_cons_self,
          List.flatMap_cons, ih]
        rfl
      by_cases hdouble : c = '"'
      · have hplain : quotedChar '\'' '"' = ['"'] := by decide
        have hescaped : quotedChar '"' '"' = ['\\', '"'] := rfl
        subst hdouble
        rw [hplain, hescaped, replacePair_append (by decide), List.flatMap_append, ih]
        rfl
      have hquoted := spelling_quoted c
      have hmarks : ∀ d ∈ quotedChar '"' c, (if d = '"' then ['\\', '"'] else [d]) = [d] :=
        fun d hd => if_neg fun (he : d = '"') => hquoted.mark_not_mem hdouble (he ▸ hd)
      rw [quotedChar_single hsingle hdouble, hquoted.replacePair hhead,
        List.flatMap_append, ih, List.flatMap_congr hmarks, List.flatMap_singleton']
  · next hmark =>
    have hdouble : quoteMark cs = '"' := by
      rw [quoteMark] at hmark ⊢
      split at hmark
      · next h => rw [if_pos h]
      · exact absurd rfl hmark
    rw [quotedBody, hdouble]

/-- An escape stands at the start of a text or further on. -/
theorem contains_cons (a b x : Char) (cs : List Char) :
    contains [a, b] (x :: cs) = (decide (x = a ∧ cs.head? = some b) || contains [a, b] cs) := by
  cases cs with
  | nil => simp [contains, dropStart?]
  | cons y cs => simp [contains_pair_cons]

theorem contains_append_of_not_mem {a b : Char} {p : List Char} (h : a ∉ p) (z : List Char) :
    contains [a, b] (p ++ z) = contains [a, b] z := by
  induction p with
  | nil => rfl
  | cons x p ih =>
    obtain ⟨hx, hp⟩ := List.ne_and_not_mem_of_not_mem_cons h
    rw [List.cons_append, contains_cons, decide_eq_false fun he => hx he.1.symm, Bool.false_or,
      ih hp]

/-- A character that is written as it is starts the spelling of no other one. -/
theorem head?_spelt_append (h : IsPlain d) : (spelt read c ++ z).head? = some d ↔ c = d := by
  constructor
  · intro hhead
    obtain ⟨e, q, hq, he⟩ := (spelling read c).exists_cons
    have hd : e = d := by simpa [hq] using hhead
    rcases he with rfl | rfl
    · exact hd
    · exact absurd List.mem_cons_self (hd ▸ h.1)
  · rintro rfl
    rw [spelt_of_isPlain h]
    rfl

/-- The escapes of a written text are those of the characters written by number, and the ones that
its own backslashes seem to be. -/
theorem contains_written_iff (cs : List Char) :
    contains ['\\', 'x'] (cs.flatMap (quotedChar '"')) = true ↔
      (∃ c ∈ cs, numbered? c = some 'x') ∨ contains ['\\', 'x'] cs = true := by
  induction cs with
  | nil => simp [contains]
  | cons c cs ih =>
    have hhead : (cs.flatMap (quotedChar '"')).head? = some 'x' ↔ cs.head? = some 'x' := by
      cases cs with
      | nil => simp
      | cons e cs =>
        rw [List.flatMap_cons, quotedChar_eq_spelt,
          head?_spelt_append (isPlain_of_letter (by decide))]
        simp
    rw [List.flatMap_cons, contains_cons]
    simp only [List.exists_mem_cons_iff, Bool.or_eq_true, decide_eq_true_eq]
    have hquoted := spelling_quoted c
    generalize quotedChar '"' c = p at hquoted
    cases hquoted with
    | plain hc hnumber =>
      have hslash : c ≠ '\\' := fun he => hc (he ▸ List.mem_cons_self)
      have hno : numbered? c ≠ some 'x' := fun he => absurd (hnumber _ he) (by simp)
      rw [contains_append_of_not_mem (by simpa using hslash.symm), ih]
      simp [hslash, hno]
    | slash hc =>
      subst hc
      have hno : numbered? '\\' ≠ some 'x' := by decide
      rw [List.cons_append, List.cons_append, List.nil_append, contains_cons, contains_cons]
      simp only [List.head?_cons, hhead, Bool.or_eq_true, decide_eq_true_eq, ih]
      simp [hno, or_left_comm]
    | @letter d hd hc =>
      have hletter := mem_of_letter hd hc
      have hslash : c ≠ '\\' := by rintro rfl; exact absurd hletter (by decide)
      obtain ⟨-, hd, hx⟩ := ne_of_mem_letters hd
      have hx : d ≠ 'x' := fun he => hx (he ▸ List.mem_cons_self)
      have hno : numbered? c ≠ some 'x' := by rw [numbered?_of_mem (.tail _ hletter)]; simp
      rw [List.cons_append, List.cons_append, List.nil_append, contains_cons, contains_cons]
      simp [hx, hd, hno, hslash, ih]
    | @number ℓ hℓ =>
      rw [List.cons_append, List.cons_append, contains_cons, contains_cons,
        contains_append_of_not_mem (not_mem_hex (by decide))]
      simp [ne_of_numbered? hℓ, ne_slash_of_numbered? hℓ, hℓ, ih, or_assoc]

theorem break_not_mem_requoted (hd : d ∈ ['\n', '\r']) (cs : List Char) : d ∉ requoted cs := by
  rw [requoted_eq, List.mem_flatMap]
  rintro ⟨c, -, hc⟩
  exact (spelling_quoted c).break_not_mem hd hc

end Writing

section Pieces

theorem splitAtEscape_ne_nil (ℓ : Char) (cs : List Char) : splitAtEscape ℓ cs ≠ [] := by
  fun_cases splitAtEscape ℓ cs <;> simp

theorem splitAtEscape_escape (ℓ : Char) (cs : List Char) :
    splitAtEscape ℓ ('\\' :: ℓ :: cs) = [] :: splitAtEscape ℓ cs :=
  if_pos ⟨rfl, rfl⟩

theorem splitAtEscape_cons (h : ¬(c = '\\' ∧ cs.head? = some ℓ)) :
    splitAtEscape ℓ (c :: cs) = (splitAtEscape ℓ cs).modifyHead (c :: ·) := by
  cases cs with
  | nil => rfl
  | cons d cs =>
    rw [splitAtEscape, if_neg fun (he : c = '\\' ∧ d = ℓ) => h ⟨he.1, congrArg some he.2⟩]
    cases hs : splitAtEscape ℓ (d :: cs) with
    | nil => exact absurd hs (splitAtEscape_ne_nil ℓ _)
    | cons w ws => rfl

theorem splitAtEscape_of_not_contains (h : contains ['\\', ℓ] cs = false) :
    splitAtEscape ℓ cs = [cs] := by
  induction cs with
  | nil => rfl
  | cons c cs ih =>
    rw [contains_cons, Bool.or_eq_false_iff, decide_eq_false_iff_not] at h
    rw [splitAtEscape_cons h.1, ih h.2]
    rfl

/-- A text is its pieces with the escapes between them. -/
theorem flatMap_splitAtEscape (ℓ : Char) (cs : List Char) :
    (splitAtEscape ℓ cs).flatMap ('\\' :: ℓ :: ·) = '\\' :: ℓ :: cs := by
  fun_induction splitAtEscape ℓ cs with
  | case1 => rfl
  | case2 c => rfl
  | case3 c d cs hc ih => rw [List.flatMap_cons, ih, hc.1, hc.2]; rfl
  | case4 c d cs hc hs => exact absurd hs (splitAtEscape_ne_nil ℓ _)
  | case5 c d cs hc w ws hs ih =>
    rw [hs] at ih
    simpa using ih

end Pieces

end ApiStubs.Toml
