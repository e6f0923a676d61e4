import ApiStubs.Proofs.Reference.Chain
import ApiStubs.Proofs.Spec.Components
import ApiStubs.Proofs.Text.Rows

/-! # Writing pointers

A path of keys is written as a reference with every tilde and every slash of a key escaped. The
slashes that are left separate the keys, and taking the escapes back in the other order gives the
keys again, so following the reference goes along the path.
-/

namespace ApiStubs

namespace Text

variable {a b x : Char}

/-- The characters of a text with a word in place of one of them. -/
def substitute (c : Char) (word cs : List Char) : List Char :=
  cs.flatMap fun d => if d = c then word else [d]

theorem substitute_cons_self (c : Char) (word cs : List Char) :
    substitute c word (c :: cs) = word ++ substitute c word cs := by
  rw [substitute, List.flatMap_cons, if_pos rfl, substitute]

theorem substitute_cons_of_ne (h : x ≠ a) (word cs : List Char) :
    substitute a word (x :: cs) = x :: substitute a word cs := by
  rw [substitute, List.flatMap_cons, if_neg h, substitute]
  rfl

theorem replacePair_cons_cons_self (a b r : Char) (cs : List Char) :
    replacePair a b r (a :: b :: cs) = r :: replacePair a b r cs :=
  if_pos ⟨rfl, rfl⟩

theorem replacePair_cons_of_ne (h : x ≠ a) (b r : Char) (cs : List Char) :
    replacePair a b r (x :: cs) = x :: replacePair a b r cs := by
  cases cs with
  | nil => rfl
  | cons y cs => exact if_neg fun he => h he.1

theorem replacePair_cons_cons_of_ne (h : x ≠ b) (a r : Char) (cs : List Char) (y : Char) :
    replacePair a b r (y :: x :: cs) = y :: replacePair a b r (x :: cs) :=
  if_neg fun he => h he.2

/-- A pair in place of every one of its first character is taken back. -/
theorem replacePair_substitute (a b : Char) (cs : List Char) :
    replacePair a b a (substitute a [a, b] cs) = cs := by
  induction cs with
  | nil => rfl
  | cons c cs ih =>
    by_cases hc : c = a
    · subst hc
      rw [substitute_cons_self, List.cons_append, List.singleton_append,
        replacePair_cons_cons_self, ih]
    · rw [substitute_cons_of_ne hc, replacePair_cons_of_ne hc, ih]

theorem splitOn_joinWith {c : Char} {texts : List String} (hne : texts ≠ [])
    (h : ∀ s ∈ texts, c ∉ s.toList) :
    splitOn c (joinWith (String.singleton c) texts).toList = texts.map String.toList := by
  induction texts with
  | nil => exact absurd rfl hne
  | cons s rest ih =>
    obtain ⟨hs, hrest⟩ := List.forall_mem_cons.mp h
    match rest with
    | [] => exact splitOn_of_not_mem hs
    | next :: rest =>
      have hjoin : (joinWith (String.singleton c) (s :: next :: rest)).toList =
          s.toList ++ c :: (joinWith (String.singleton c) (next :: rest)).toList := by
        rw [joinWith_cons_cons, String.toList_append, String.toList_append, List.append_assoc,
          String.toList_singleton, List.singleton_append]
      rw [hjoin, splitOn_append_cons, splitOn_of_not_mem hs, ih (List.cons_ne_nil _ _) hrest]
      rfl

end Text

namespace Pointer

/-- A token with its tildes and slashes escaped, the tildes first. -/
def escape (token : String) : String :=
  String.ofList (Text.substitute '/' ['~', '1'] (Text.substitute '~' ['~', '0'] token.toList))

/-- A path as a reference into the specification. -/
def written (path : List String) : String :=
  "#/" ++ Text.joinWith "/" (path.map escape)

/-- No tilde of an escaped text is followed by the mark for a slash, so these stand for slashes. -/
theorem unescape_slashes (cs : List Char) : Text.replacePair '~' '1' '/'
    (Text.substitute '/' ['~', '1'] (Text.substitute '~' ['~', '0'] cs)) =
      Text.substitute '~' ['~', '0'] cs := by
  induction cs with
  | nil => rfl
  | cons c cs ih =>
    by_cases htilde : c = '~'
    · subst htilde
      rw [Text.substitute_cons_self, List.cons_append, List.singleton_append,
        Text.substitute_cons_of_ne (by decide), Text.substitute_cons_of_ne (by decide),
        Text.replacePair_cons_cons_of_ne (by decide), Text.replacePair_cons_of_ne (by decide), ih]
    · rw [Text.substitute_cons_of_ne htilde]
      by_cases hslash : c = '/'
      · subst hslash
        rw [Text.substitute_cons_self, List.cons_append, List.singleton_append,
          Text.replacePair_cons_cons_self, ih]
      · rw [Text.substitute_cons_of_ne hslash, Text.replacePair_cons_of_ne htilde, ih]

theorem unescape_escape (token : String) : String.ofList (unescape (escape token).toList) = token := by
  rw [escape, String.toList_ofList, unescape, unescape_slashes,
    Text.replacePair_substitute, String.ofList_toList]

theorem slash_not_mem_escape (token : String) : '/' ∉ (escape token).toList := by
  rw [escape, String.toList_ofList, Text.substitute, List.mem_flatMap]
  rintro ⟨c, -, hc⟩
  split at hc
  · exact absurd hc (by decide)
  · next hne => exact hne (List.mem_singleton.mp hc).symm

theorem tokens_written {path : List String} (h : path ≠ []) :
    Reference.tokens (written path) = path := by
  have hslash : ∀ s ∈ path.map escape, '/' ∉ s.toList := by
    intro s hs
    obtain ⟨token, -, rfl⟩ := List.mem_map.mp hs
    exact slash_not_mem_escape token
  have hsplit : Text.splitOn '/' (Text.joinWith "/" (path.map escape)).toList =
      (path.map escape).map String.toList :=
    Text.splitOn_joinWith (List.map_eq_nil_iff.not.mpr h) hslash
  have hdrop : (written path).toList.drop 2 = (Text.joinWith "/" (path.map escape)).toList := by
    rw [written, String.toList_append]
    rfl
  rw [Reference.tokens, hdrop, tokens, hsplit, List.map_map, List.map_map]
  exact (List.map_congr_left fun token _ => unescape_escape token).trans (List.map_id path)

end Pointer

namespace Spec

open Reference

variable {root : Value} {path : List String} {fields : Fields}

theorem next_written (hne : path ≠ []) (h : Way path root (.object fields)) :
    Next root (referring (Pointer.written path)) (Pointer.written path) (.object fields) := by
  have hstart : ['#', '/'] <+: (Pointer.written path).toList := by
    rw [Pointer.written, String.toList_append]
    exact ⟨_, rfl⟩
  refine ⟨⟨rfl, hstart⟩, ?_, fields, rfl⟩
  rw [Pointer.tokens_written hne]
  exact h

theorem componentName?_escape (name : String) :
    componentName? ("#/components/schemas/" ++ Pointer.escape name) = some name := by
  rw [componentName?, String.toList_append, Text.dropStart?_append, Option.map_some,
    Pointer.unescape_escape]

/-- The reference that is written for a path of keys leads along it, and the one that is written for
the name of a component schema has this name. -/
theorem follow_written (root : Value) (source : String) :
    (∀ path fields, path ≠ [] → Way path root (.object fields) →
      (∀ ref, ¬ Refers (.object fields) ref) →
        ({ root, source } : Spec).follow (referring (Pointer.written path)) =
          .ok (.object fields)) ∧
      ∀ name, ({ root, source } : Spec).schema
        (referring ("#/components/schemas/" ++ Pointer.escape name)) =
          .ok { kind := .reference, refName := some name } := by
  constructor
  · intro path fields hne hway hno
    rw [follow_plain_eq_ok_iff, follow_eq_ok_iff]
    exact ⟨[_], .next (next_written hne hway) .here, by simp, hno⟩
  · intro name
    have hname : (referring ("#/components/schemas/" ++ Pointer.escape name)).link?.bind
        componentName? = some name := by
      rw [link?_referring, Option.bind_some, componentName?_escape]
    exact schema_of_kept hname rfl

/-- A specification with an empty key and keys that look like escapes. -/
def oddKeys : Value :=
  .object [(.text "~1", .object [(.text "", .object
    [(.text "a/b", .object [(.text "~01", .object [(.text "type", .text "string")])])])])]

theorem follow_written_oddKeys :
    ["~1", "", "a/b", "~01"] ≠ [] ∧
      Way ["~1", "", "a/b", "~01"] oddKeys (.object [(.text "type", .text "string")]) ∧
      (∀ ref, ¬ Refers (.object [(.text "type", .text "string")]) ref) ∧
      Pointer.written ["~1", "", "a/b", "~01"] = "#/~01//a~1b/~001" ∧
      ({ root := oddKeys } : Spec).follow (referring (Pointer.written ["~1", "", "a/b", "~01"])) =
        .ok (.object [(.text "type", .text "string")]) := by
  have hne : ["~1", "", "a/b", "~01"] ≠ [] := List.cons_ne_nil _ _
  have hway : Way ["~1", "", "a/b", "~01"] oddKeys (.object [(.text "type", .text "string")]) :=
    .field rfl (.field rfl (.field rfl (.field rfl .here)))
  have hno : ∀ ref, ¬ Refers (.object [(.text "type", .text "string")]) ref := by
    intro ref h
    cases h.link
  have hwritten : Pointer.written ["~1", "", "a/b", "~01"] = "#/~01//a~1b/~001" := by
    decide
  exact ⟨hne, hway, hno, hwritten, (follow_written oddKeys "<document>").1 _ _ hne hway hno⟩

end Spec

end ApiStubs
