import ApiStubs.MethodName
import ApiStubs.Proofs.Naming.Words
import ApiStubs.Target.Language

/-! # Identifiers of method names

A method name starts with the letters of its verb, so its identifier needs no mark for a digit or a
keyword. What is left is the text with other characters replaced, or its words. The identifiers of
two methods are equal if and only if this is the same for both.
-/

namespace ApiStubs

open Naming

theorem Verb.canonical_alphanumeric (v : Verb) :
    ∀ c ∈ v.canonical.toList, Character.isAlphanumeric c = true := by
  -- as a test of the letters alone, since a quantifier over all characters is decided one by one
  rw [← List.all_eq_true]
  cases v <;> decide

theorem Verb.canonical_ne_nil (v : Verb) : v.canonical.toList ≠ [] := by
  cases v <;> decide

namespace MethodName

variable {name : String} {cs : List Char}

/-- A text that starts like a method name: with a verb in canonical form. -/
def StartsWithVerb (cs : List Char) : Prop :=
  ∃ v : Verb, v.canonical.toList <+: cs

theorem StartsWithVerb.ne_nil (h : StartsWithVerb cs) : cs ≠ [] := by
  obtain ⟨v, hv⟩ := h
  rintro rfl
  exact v.canonical_ne_nil (List.prefix_nil.mp hv)

theorem StartsWithVerb.isDigit_head {c : Char} (h : StartsWithVerb (c :: cs)) :
    Character.isDigit c = false := by
  obtain ⟨v, rest, hv⟩ := h
  cases v <;> cases hv <;> decide

theorem StartsWithVerb.not_mem {keywords : List String} (h : StartsWithVerb cs)
    (hk : ∀ v : Verb, ∀ k ∈ keywords, v.canonical.toList.isPrefixOf k.toList = false) :
    String.ofList cs ∉ keywords := by
  obtain ⟨v, hv⟩ := h
  intro hmem
  have hno := hk v _ hmem
  rw [String.toList_ofList, List.isPrefixOf_iff_prefix.mpr hv] at hno
  cases hno

theorem snake_identifier (h : StartsWithVerb (joined (words name.toList))) :
    snake.identifier name = String.ofList (joined (words name.toList)) := by
  have hstarted : Snake.started (joined (words name.toList)) = joined (words name.toList) := by
    cases hj : joined (words name.toList) with
    | nil => exact absurd hj h.ne_nil
    | cons c rest => simp [Snake.started, (hj ▸ h : StartsWithVerb (c :: rest)).isDigit_head]
  have hkeyword : String.ofList (joined (words name.toList)) ∉ Snake.keywords :=
    h.not_mem fun v => by cases v <;> decide
  simp [snake, Snake.clean, trimWhile_squeeze, hstarted, hkeyword]

theorem marked_identifier (h : StartsWithVerb (name.toList.map Marked.plain)) :
    marked.identifier name = String.ofList (name.toList.map Marked.plain) := by
  have hstarted :
      Marked.started (name.toList.map Marked.plain) = name.toList.map Marked.plain := by
    cases hm : name.toList.map Marked.plain with
    | nil => exact absurd hm h.ne_nil
    | cons c rest => simp [Marked.started, (hm ▸ h : StartsWithVerb (c :: rest)).isDigit_head]
  have hkeyword : String.ofList (name.toList.map Marked.plain) ∉ Marked.keywords :=
    h.not_mem fun v => by cases v <;> decide
  simp [marked, Marked.identifier, hstarted, hkeyword]

theorem canonical_prefix_joined_words (v : Verb) (route : String) :
    v.canonical.toList <+: joined (words (synthesize v route).toList) := by
  rw [synthesize, String.toList_append]
  exact prefix_joined_words v.canonical_alphanumeric v.canonical_ne_nil _

theorem canonical_prefix_map_plain (v : Verb) (route : String) :
    v.canonical.toList <+: (synthesize v route).toList.map Marked.plain := by
  have hplain : v.canonical.toList.map Marked.plain = v.canonical.toList := by
    cases v <;> decide
  rw [synthesize, String.toList_append, List.map_append, hplain]
  exact List.prefix_append _ _

theorem startsWithVerb_joined_words (v : Verb) (route : String) :
    StartsWithVerb (joined (words (synthesize v route).toList)) :=
  ⟨v, canonical_prefix_joined_words v route⟩

theorem startsWithVerb_map_plain (v : Verb) (route : String) :
    StartsWithVerb ((synthesize v route).toList.map Marked.plain) :=
  ⟨v, canonical_prefix_map_plain v route⟩

end MethodName

/-- Names that a language cannot tell apart: they agree in their characters once all that are
neither letters nor numbers count as one, or they have the same words. -/
def Language.SameSpelling : Language → String → String → Prop
  | .csharp, a, b => a.toList.map Marked.plain = b.toList.map Marked.plain
  | .python, a, b => words a.toList = words b.toList

theorem MethodName.identifier_eq_iff (language : Language) (v w : Verb) (route path : String) :
    language.naming.identifier (synthesize v route) =
        language.naming.identifier (synthesize w path) ↔
      language.SameSpelling (synthesize v route) (synthesize w path) := by
  cases language with
  | csharp =>
    rw [Language.naming, marked_identifier (startsWithVerb_map_plain v route),
      marked_identifier (startsWithVerb_map_plain w path)]
    exact String.ofList_inj
  | python =>
    rw [Language.naming, snake_identifier (startsWithVerb_joined_words v route),
      snake_identifier (startsWithVerb_joined_words w path), String.ofList_inj]
    exact joined_inj (areWords_words _) (areWords_words _)

end ApiStubs
