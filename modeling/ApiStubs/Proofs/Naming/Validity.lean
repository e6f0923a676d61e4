import ApiStubs.Proofs.Character.Ranges
import ApiStubs.Proofs.Naming.Identifier

/-! # Valid identifiers

A cleaned name is never empty and never a keyword. What is left of a name are its letters and
numbers, of all scripts, and not all of them may stand in an identifier. So a cleaned name is an
identifier if and only if all letters and numbers of the name may stand in one, and the first of
them may start one or is a digit, which goes behind a word.
-/

namespace ApiStubs.Naming.Snake

variable {name : String}

/-- A word that names something in Python: an identifier, and no keyword. -/
structure IsIdentifier (s : String) : Prop where
  nonempty : s ≠ ""
  spelled : Character.isIdentifier s.toList = true
  free : s ∉ keywords

/-- The letters and numbers of a name. -/
def letters (name : String) : List Char :=
  name.toList.filter Character.isAlphanumeric

/-- A name whose letters and numbers may stand in an identifier, the first of them at its start or
behind a word if it is a digit. -/
structure IsSpellable (name : String) : Prop where
  inside : ∀ c ∈ letters name, Character.isIdentifierContinue c = true
  first : ∀ c ∈ (letters name).head?,
    Character.isDigit c = true ∨ Character.isIdentifierStart c = true

section Letters

/-- Cleaning keeps all letters and numbers, behind a word if there are none or a digit is first. -/
theorem letters_clean (name : String) :
    (letters (clean name) = letters name ∧
      ∃ c ∈ (letters name).head?, Character.isDigit c = false) ∨
    (letters (clean name) = "param".toList ++ letters name ∧
      ∀ c ∈ (letters name).head?, Character.isDigit c = true) := by
  have hwords := areWords_words name.toList
  have hclean : letters (clean name) = (begun (words name.toList)).flatten := by
    rw [letters, ← flatten_words, words_clean]
  rw [hclean, letters, ← flatten_words]
  match hws : words name.toList with
  | [] => exact .inr ⟨rfl, by simp⟩
  | [] :: ws => exact absurd rfl (hwords [] (hws ▸ List.mem_cons_self)).1
  | (c :: cs) :: ws =>
    cases hdigit : Character.isDigit c with
    | true => exact .inr ⟨by simp [begun, hdigit], by simp [hdigit]⟩
    | false => exact .inl ⟨by simp [begun, hdigit], c, rfl, hdigit⟩

/-- An identifier is made of its letters and numbers and of underscores. -/
theorem isIdentifier_clean_iff_letters (name : String) :
    Character.isIdentifier (clean name).toList = true ↔
      (∃ c ∈ (letters (clean name)).head?, Character.isIdentifierStart c = true) ∧
        ∀ c ∈ letters (clean name), Character.isIdentifierContinue c = true := by
  obtain ⟨c, cs, hcs, hc⟩ := exists_clean_eq_cons name
  have hhead : (letters (clean name)).head? = (clean name).toList.head? := by
    rw [letters, hcs, List.filter_cons_of_pos hc, List.head?_cons, List.head?_cons]
  have hunder : Character.isIdentifierContinue '_' = true := by decide
  rw [Character.isIdentifier_iff, hhead]
  refine and_congr_right fun _ => ⟨fun h d hd => h d (List.mem_of_mem_filter hd), fun h d hd => ?_⟩
  rcases Bool.or_eq_true .. ▸ isWord_of_mem_clean hd with hd' | hd'
  · exact h d (List.mem_filter.mpr ⟨hd, hd'⟩)
  · exact eq_of_beq hd' ▸ hunder

end Letters

/-- The classes of characters decide alone whether a cleaned name is an identifier. -/
theorem isIdentifier_clean_iff :
    Character.isIdentifier (clean name).toList = true ↔ IsSpellable name := by
  have hparam : ∀ c ∈ "param".toList, Character.isIdentifierContinue c = true :=
    List.all_eq_true.mp (by decide)
  rw [isIdentifier_clean_iff_letters]
  rcases letters_clean name with ⟨hletters, c, hc, hdigit⟩ | ⟨hletters, hdigit⟩
  · rw [hletters]
    constructor
    · rintro ⟨⟨d, hd, hstart⟩, hinside⟩
      exact ⟨hinside, fun e he => .inr (Option.mem_unique hd he ▸ hstart)⟩
    · rintro ⟨hinside, hfirst⟩
      exact ⟨⟨c, hc, (hfirst c hc).resolve_left (by simp [hdigit])⟩, hinside⟩
  · rw [hletters, List.forall_mem_append]
    constructor
    · rintro ⟨-, -, hinside⟩
      exact ⟨hinside, fun c hc => .inl (hdigit c hc)⟩
    · rintro ⟨hinside, -⟩
      exact ⟨⟨'p', rfl, by decide⟩, hparam, hinside⟩

theorem clean_ne_empty (name : String) : clean name ≠ "" := by
  obtain ⟨c, cs, hcs, -⟩ := exists_clean_eq_cons name
  rintro he
  simp [he] at hcs

/-- The mark behind a keyword is at the end of no keyword. -/
theorem clean_not_mem_keywords (name : String) : clean name ∉ keywords := by
  have hend : ∀ k ∈ keywords, k.toList.getLast? ≠ some '_' := by decide
  intro hmem
  have hclean := toList_clean name
  unfold unkeyed at hclean
  split at hclean
  · refine hend _ hmem ?_
    rw [hclean, List.getLast?_concat]
  · next hfree =>
    rw [List.contains_iff_mem, ← hclean, String.ofList_toList] at hfree
    exact hfree hmem

theorem isIdentifier_clean_of_isSpellable (h : IsSpellable name) : IsIdentifier (clean name) :=
  ⟨clean_ne_empty name, isIdentifier_clean_iff.mpr h, clean_not_mem_keywords name⟩

/-- Cleaning always gives a text that is not empty and no keyword, and it gives an identifier for
exactly the names whose letters and numbers may stand in one. -/
theorem clean_isIdentifier_iff (name : String) : clean name ≠ "" ∧ clean name ∉ keywords ∧
    (IsIdentifier (clean name) ↔ IsSpellable name) := by
  refine ⟨clean_ne_empty name, clean_not_mem_keywords name, ?_, isIdentifier_clean_of_isSpellable⟩
  intro h
  exact isIdentifier_clean_iff.mp h.spelled

/-- A raised digit is a number, and so it is not taken for a character to leave out. -/
theorem not_isIdentifier_clean_squared : ¬ IsIdentifier (clean "m²") := by
  intro h
  exact absurd h.spelled (by decide +kernel)

section UnitNames

/-- A name whose characters are among the first 128. -/
def IsAscii (name : String) : Prop :=
  ∀ c ∈ name.toList, c.toNat < 128

instance : Decidable (IsAscii name) :=
  decidable_of_decidable_of_iff (p := (name.toList.all fun c => c.toNat < 128) = true)
    (by simp [IsAscii])

theorem isSpellable_of_isAscii (h : IsAscii name) : IsSpellable name := by
  have hletters : ∀ c ∈ letters name, Character.isIdentifierContinue c = true ∧
      (Character.isDigit c = true ∨ Character.isIdentifierStart c = true) := by
    intro c hc
    obtain ⟨hmem, hletter⟩ := List.mem_filter.mp hc
    exact Character.identifier_of_ascii (h c hmem) hletter
  exact ⟨fun c hc => (hletters c hc).1, fun c hc => (hletters c (List.mem_of_mem_head? hc)).2⟩

/-- Every keyword is spelled as an identifier, so as a file name it stays as it is. -/
theorem unitName_of_mem_keywords (h : name ∈ keywords) : unitName name = name := by
  have hspelled : ∀ k ∈ keywords, Character.isIdentifier k.toList = true := by decide +kernel
  exact if_pos (hspelled name h)

theorem isIdentifier_unitName_iff (h : IsIdentifier (clean name)) :
    IsIdentifier (unitName name) ↔ name ∉ keywords := by
  constructor
  · intro hunit hmem
    rw [unitName_of_mem_keywords hmem] at hunit
    exact hunit.free hmem
  · intro hfree
    unfold unitName
    split
    · next hspelled => exact ⟨by rintro rfl; contradiction, hspelled, hfree⟩
    · exact h

end UnitNames

end ApiStubs.Naming.Snake
