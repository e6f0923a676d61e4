import ApiStubs.Proofs.Character.Numbers
import ApiStubs.Proofs.Naming.Identifier

/-! # Usable marked identifiers

An identifier with other characters turned into underscores starts with no digit and is no keyword
without its mark. But the empty name stays empty, and numbers of all kinds count as letters or
digits. So an identifier is usable if and only if the name is not empty and all its letters and
numbers are letters or decimal digits.
-/

namespace ApiStubs.Naming.Marked

variable {name : String} {c : Char} {cs : List Char}

/-- A text without the mark in front of a keyword. -/
def unmarked (cs : List Char) : List Char :=
  if cs.head? = some '@' then cs.tail else cs

/-- A word that names something in C#: behind a mark, if there is one, a letter or an underscore,
then letters, decimal digits and underscores, and no keyword unless the mark is there. -/
structure IsUsable (s : String) : Prop where
  nonempty : s ≠ ""
  first : ∃ c ∈ (unmarked s.toList).head?, Character.isLetter c = true ∨ c = '_'
  rest : ∀ c ∈ unmarked s.toList,
    Character.isLetter c = true ∨ Character.isDecimal c = true ∨ c = '_'
  free : s ∉ keywords

/-- A name whose letters and numbers are letters and decimal digits. -/
def HasPlainNumbers (name : String) : Prop :=
  ∀ c ∈ name.toList, Character.isAlphanumeric c = true →
    Character.isLetter c = true ∨ Character.isDecimal c = true

theorem unmarked_identifier (name : String) :
    unmarked (identifier name).toList = spelling name := by
  rcases identifier_eq_or name with ⟨-, he⟩ | ⟨-, he⟩
  · simp [he, unmarked]
  · have hhead : (spelling name).head? ≠ some '@' := fun h =>
      absurd (isWord_of_mem_spelling (List.mem_of_mem_head? h)) (by decide)
    rw [he, String.toList_ofList, unmarked, if_neg hhead]

theorem identifier_not_mem_keywords (name : String) : identifier name ∉ keywords := by
  have hmark : ∀ k ∈ keywords, k.toList.head? ≠ some '@' := by decide
  rcases identifier_eq_or name with ⟨-, he⟩ | ⟨hfree, he⟩
  · intro hmem
    exact hmark _ hmem (by simp [he])
  · exact he ▸ hfree

/-- The letters and numbers of a name stay in its spelling, and all else there is an underscore. -/
theorem mem_spelling_iff (hc : c ≠ '_') :
    c ∈ spelling name ↔ c ∈ name.toList ∧ Character.isAlphanumeric c = true := by
  have hplain : c ∈ name.toList.map plain ↔
      c ∈ name.toList ∧ Character.isAlphanumeric c = true := by
    constructor
    · intro h
      obtain ⟨a, ha, rfl⟩ := List.mem_map.mp h
      by_cases hword : Character.isWord a = true
      · rw [plain_eq_self_iff.mpr hword] at hc ⊢
        exact ⟨ha, by simpa [Character.isWord, hc] using hword⟩
      · exact absurd (if_neg hword) hc
    · rintro ⟨hmem, halpha⟩
      have hword : Character.isWord c = true := by simp [Character.isWord, halpha]
      exact List.mem_map.mpr ⟨c, hmem, plain_eq_self_iff.mpr hword⟩
  unfold spelling started
  split
  · next hnil => rw [← hplain, hnil]
  · split <;> simp [← hplain, *]

theorem spelling_eq_nil_iff : spelling name = [] ↔ name = "" := by
  unfold spelling started
  split
  · next hnil => simpa using hnil
  · next c cs hcons =>
    have hname : name ≠ "" := by rintro rfl; cases hcons
    split <;> simp [hname]

/-- The first character of a spelling is no digit. -/
theorem isDigit_head_spelling (hc : c ∈ (spelling name).head?) : Character.isDigit c = false := by
  unfold spelling started at hc
  split at hc
  · cases hc
  · next d cs hcons =>
    split at hc
    · cases hc; decide
    · next hdigit =>
      rw [hcons] at hc
      cases hc
      exact Bool.eq_false_iff.mpr hdigit

theorem isUsable_identifier_iff :
    IsUsable (identifier name) ↔ name ≠ "" ∧ HasPlainNumbers name := by
  have hunder : Character.isAlphanumeric '_' = false := isAlphanumeric_underscore
  constructor
  · rintro ⟨-, ⟨c, hc, -⟩, hrest, -⟩
    rw [unmarked_identifier] at hc hrest
    refine ⟨fun he => ?_, fun d hd halpha => ?_⟩
    · rw [spelling_eq_nil_iff.mpr he] at hc
      cases hc
    · have hne : d ≠ '_' := by rintro rfl; rw [hunder] at halpha; cases halpha
      simpa [hne] using hrest d ((mem_spelling_iff hne).mpr ⟨hd, halpha⟩)
  · rintro ⟨hname, hplain⟩
    have hrest : ∀ c ∈ spelling name,
        Character.isLetter c = true ∨ Character.isDecimal c = true ∨ c = '_' := by
      intro c hc
      by_cases hne : c = '_'
      · exact .inr (.inr hne)
      · obtain ⟨hmem, halpha⟩ := (mem_spelling_iff hne).mp hc
        exact (hplain c hmem halpha).imp_right .inl
    obtain ⟨c, cs, hcs⟩ := List.exists_cons_of_ne_nil (mt spelling_eq_nil_iff.mp hname)
    have hhead : c ∈ (spelling name).head? := by simp [hcs]
    have hfirst : Character.isLetter c = true ∨ c = '_' := by
      rcases hrest c (List.mem_of_mem_head? hhead) with hletter | hdecimal | he
      · exact .inl hletter
      · have hdigit := Character.isDigit_of_isDecimal hdecimal
        rw [isDigit_head_spelling hhead] at hdigit
        cases hdigit
      · exact .inr he
    refine ⟨fun he => ?_, ?_, ?_, identifier_not_mem_keywords name⟩
    · have hspelling := unmarked_identifier name
      rw [he, hcs] at hspelling
      cases hspelling
    · rw [unmarked_identifier]; exact ⟨c, hhead, hfirst⟩
    · rw [unmarked_identifier]; exact hrest

/-- No identifier is a keyword, none holds anything else than letters, numbers and underscores behind
its mark, and the usable ones are those of the names that are not empty and hold no numbers other
than decimal digits and letters. -/
theorem identifier_usable_iff (name : String) : identifier name ∉ keywords ∧
    (∀ c ∈ unmarked (identifier name).toList, Character.isWord c = true) ∧
    (∀ c ∈ (unmarked (identifier name).toList).head?, Character.isDigit c = false) ∧
    (IsUsable (identifier name) ↔ name ≠ "" ∧ HasPlainNumbers name) := by
  refine ⟨identifier_not_mem_keywords name, fun c hc => ?_, fun c hc => ?_,
    isUsable_identifier_iff⟩
  · rw [unmarked_identifier] at hc
    exact isWord_of_mem_spelling hc
  · rw [unmarked_identifier] at hc
    exact isDigit_head_spelling hc

/-- The empty name has an empty identifier, and a raised digit stays where it is. -/
theorem not_isUsable_identifier_squared :
    ¬ IsUsable (identifier "") ∧ ¬ IsUsable (identifier "m²") := by
  constructor
  · intro h; exact h.nonempty (by decide)
  · intro h
    have hraised := h.rest '²' (by decide +kernel)
    exact absurd hraised (by decide +kernel)

end ApiStubs.Naming.Marked
