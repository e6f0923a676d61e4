import ApiStubs.Proofs.Library.Closure
import ApiStubs.Proofs.Text.Order

/-! # References of a library

A type names at most one model, at some depth of arrays. The models that the fields of a library and
the methods of its client refer to are all in the library.
-/

namespace ApiStubs

open Descriptor

variable {n : String} {d : Descriptor} {k : ℕ}

namespace Descriptor

/-- A type inside so many arrays. -/
def inArrays : ℕ → Descriptor → Descriptor
  | 0, d => d
  | k + 1, d => .array (inArrays k d)

theorem names_inArrays (k : ℕ) (d : Descriptor) : (inArrays k d).names = d.names := by
  induction k with
  | zero => rfl
  | succ k ih => exact ih

theorem mem_names_iff : n ∈ d.names ↔ ∃ k, d = inArrays k (.named n) := by
  constructor
  · intro h
    induction d with
    | primitive p => cases h
    | array item ih =>
      obtain ⟨k, hk⟩ := ih h
      exact ⟨k + 1, congrArg Descriptor.array hk⟩
    | named name => exact ⟨0, by rw [List.mem_singleton.mp h, inArrays]⟩
    | any => cases h
  · rintro ⟨k, rfl⟩
    rw [names_inArrays]
    exact List.mem_singleton_self n

end Descriptor

/-- A text inside so many list types. -/
def Language.inLists (language : Language) : ℕ → String → String
  | 0, text => text
  | k + 1, text =>
    match language with
    | .csharp => "List<" ++ inLists language k text ++ ">"
    | .python => "List[" ++ inLists language k text ++ "]"

theorem Language.type_inArrays (language : Language) (quoteNames : Bool) (k : ℕ) (d : Descriptor) :
    language.type quoteNames (inArrays k d) = language.inLists k (language.type quoteNames d) := by
  induction k with
  | zero => rfl
  | succ k ih =>
    cases language with
    | csharp => exact congrArg (fun text => "List<" ++ text ++ ">") ih
    | python => exact congrArg (fun text => "List[" ++ text ++ "]") ih

/-- The types of the arguments, and that of the result if there is one. -/
def Signature.types (s : Signature) : List Descriptor :=
  s.arguments.map (·.type) ++ s.result.payload.toList

theorem Signature.mem_references_iff {s : Signature} :
    n ∈ s.references ↔ ∃ t ∈ s.types, n ∈ t.names := by
  have hresult : n ∈ s.result.names ↔ ∃ t ∈ s.result.payload, n ∈ t.names := by
    cases h : s.result.payload <;> simp [Completion.names, h]
  simp [references, types, hresult, or_and_right, exists_or]

theorem Model.mem_references_iff {m : Model} :
    n ∈ m.references ↔ ∃ f ∈ m.fields, n ∈ f.type.names := by
  simp [references]

namespace Library

variable {language : Language} {document : Document}

/-- A schema that refers to another one by its name. -/
def referenceTo (name : String) : Schema where
  kind := .reference
  refName := some name

/-- An object with a property for each of some models. -/
def holderOf (names : List String) : Schema where
  kind := .object
  properties := names.map fun name => (name, referenceTo name)

theorem closed_models (language : Language) (document : Document) :
    Closed (models language document) := by
  obtain ⟨_, _, h⟩ := closeModels_sweeps (builtModels language document)
  exact h.closed

theorem exists_model_of_field {m : Model} (hm : m ∈ models language document) {f : ModelField}
    (hf : f ∈ m.fields) (hn : n ∈ f.type.names) : ∃ o ∈ models language document, o.name = n :=
  List.mem_map.mp
    (closed_models language document m hm n (Model.mem_references_iff.mpr ⟨f, hf, hn⟩))

theorem exists_model_of_type {s : Signature} (hs : s ∈ methods language document) {t : Descriptor}
    (ht : t ∈ s.types) (hn : n ∈ t.names) : ∃ o ∈ models language document, o.name = n := by
  have hresolved : firstMissing (models language document) s.references = none := by
    simpa using (List.mem_filter.mp hs).2
  exact List.mem_map.mp (firstMissing_eq_none_iff.mp hresolved n
    (Signature.mem_references_iff.mpr ⟨t, ht, hn⟩))

theorem mem_clientReferences_iff {signatures : List Signature} :
    n ∈ clientReferences signatures ↔ ∃ s ∈ signatures, ∃ t ∈ s.types, n ∈ t.names := by
  simp [clientReferences, Signature.mem_references_iff]

theorem ascending_clientReferences (signatures : List Signature) :
    (clientReferences signatures).Pairwise (· < ·) :=
  Text.ascending_sorted (nodup_firstOccurrences _)

end Library

end ApiStubs
