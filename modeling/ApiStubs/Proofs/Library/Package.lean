import ApiStubs.Proofs.Library.References
import ApiStubs.Proofs.Package.Reading

/-! # Imports of a Python package

Whatever was left out of a library, the package that is written can be imported: each of its imports
finds its class in the file that it names, the client imports all that its annotations name, a model
quotes what its annotations name, and the package file goes through exactly the written models.
-/

namespace ApiStubs

open Descriptor Text

namespace Python

theorem fieldType_inArrays (k : ℕ) (n : String) : fieldType (inArrays k (.named n)) =
    "Optional[" ++ Language.python.inLists k ("\"" ++ identifier n ++ "\"") ++ "]" := by
  have hne : inArrays k (.named n) ≠ .any := by cases k <;> simp [inArrays]
  have htype : fieldType (inArrays k (.named n)) =
      "Optional[" ++ type true (inArrays k (.named n)) ++ "]" := by
    unfold fieldType
    split
    · next h => exact absurd h hne
    · rfl
  rw [htype]
  exact congrArg (fun text => "Optional[" ++ text ++ "]") (Language.type_inArrays .python true k _)

def imports (namespaceName : String) (f : SourceFile) : List Import :=
  (bodyRows namespaceName f.content).filterMap readImport?

/-- The imports that only a type checker follows. -/
def guardedImports (namespaceName : String) (f : SourceFile) : List Import :=
  (guarded (bodyRows namespaceName f.content)).filterMap readImport?

def classes (namespaceName : String) (f : SourceFile) : List String :=
  (bodyRows namespaceName f.content).filterMap readClass?

def rebuilt (namespaceName : String) (f : SourceFile) : List String :=
  (bodyRows namespaceName f.content).filterMap readRebuild?

/-- Every import names a file that defines the imported class. -/
def ImportsFound (namespaceName : String) (files : List SourceFile) : Prop :=
  ∀ f ∈ files, ∀ i ∈ imports namespaceName f,
    ∃ g ∈ files, g.name = i.unit ∧ i.name ∈ classes namespaceName g

/-- The file of a model defines its class and imports only for type checkers. A model that the
annotation of a field names is quoted and is the model itself or imported. -/
structure ModelImports (namespaceName : String) (m : Model) (f : SourceFile) : Prop where
  defined : classes namespaceName f = [identifier m.name]
  guarded : imports namespaceName f = guardedImports namespaceName f
  written : ∀ x ∈ m.fields, margin ++ field x ∈ bodyRows namespaceName f.content
  quoted : ∀ x ∈ m.fields, ∀ n ∈ x.type.names, ∃ k, x.type = inArrays k (.named n) ∧
    fieldType x.type = "Optional[" ++ Language.python.inLists k ("\"" ++ identifier n ++ "\"") ++ "]"
  imported : ∀ x ∈ m.fields, ∀ n ∈ x.type.names,
    n = m.name ∨ importOf n ∈ guardedImports namespaceName f

/-- The file of a client imports each model that a signature names once, in the order of the names,
and so every class that its annotations name. -/
structure ClientImports (namespaceName : String) (signatures : List Signature) (f : SourceFile) :
    Prop where
  ordered : ∃ names : List String, imports namespaceName f = names.map importOf ∧
    names.Pairwise (· < ·) ∧ ∀ n, n ∈ names ↔ ∃ s ∈ signatures, ∃ t ∈ s.types, n ∈ t.names
  written : ∀ s ∈ signatures, margin ++ methodHead s ∈ bodyRows namespaceName f.content
  imported : ∀ s ∈ signatures, ∀ t ∈ s.types, ∀ n ∈ t.names, ∃ k, t = inArrays k (.named n) ∧
    type false t = Language.python.inLists k (identifier n) ∧ importOf n ∈ imports namespaceName f

/-- The package file imports the models and the client, rebuilds the models and exports all their
classes, each once and in order. -/
structure PackageImports (namespaceName client : String) (models : List Model) (f : SourceFile) :
    Prop where
  imported : imports namespaceName f = (models.map (·.name) ++ [client]).map importOf
  rebuilt : rebuilt namespaceName f = models.map fun m => identifier m.name
  exported : ∃ names : List String,
    (bodyRows namespaceName f.content).getLast? = some (exportRow names) ∧
      names.Pairwise (· < ·) ∧
        ∀ c, c ∈ names ↔ ∃ n ∈ models.map (·.name) ++ [client], c = identifier n

end Python

namespace Library

open Python

variable {namespaceName client : String} {document : Document} {m : Model}

theorem bodyRows_modelFile (namespaceName : String) (m : Model) :
    bodyRows namespaceName (modelFile .python namespaceName m).content =
      modelRows m.name m.fields m.references :=
  bodyRows_model namespaceName m.name m.fields m.references

theorem bodyRows_clientFile (namespaceName client : String) (signatures : List Signature) :
    bodyRows namespaceName (clientFile .python namespaceName client signatures).content =
      clientRows client signatures (clientReferences signatures) :=
  bodyRows_client namespaceName client signatures (clientReferences signatures)

theorem modelImports (namespaceName : String) (m : Model) :
    ModelImports namespaceName m (modelFile .python namespaceName m) := by
  have hguarded : guardedImports namespaceName (modelFile .python namespaceName m) =
      (m.references.filter (· ≠ m.name)).map importOf := by
    rw [guardedImports, bodyRows_modelFile, guarded_modelRows]
  refine ⟨?_, ?_, ?_, ?_, ?_⟩
  · rw [classes, bodyRows_modelFile, classes_modelRows]
  · rw [hguarded, imports, bodyRows_modelFile, imports_modelRows]
  · intro x hx
    rw [bodyRows_modelFile]
    exact field_mem_modelRows hx m.name m.references
  · intro x hx n hn
    obtain ⟨k, hk⟩ := mem_names_iff.mp hn
    exact ⟨k, hk, by rw [hk, fieldType_inArrays]⟩
  · intro x hx n hn
    by_cases h : n = m.name
    · exact .inl h
    · right
      rw [hguarded]
      refine List.mem_map_of_mem (List.mem_filter.mpr ⟨?_, by simpa using h⟩)
      exact Model.mem_references_iff.mpr ⟨x, hx, hn⟩

theorem clientImports (namespaceName client : String) (signatures : List Signature) :
    ClientImports namespaceName signatures
      (clientFile .python namespaceName client signatures) := by
  have himports : imports namespaceName (clientFile .python namespaceName client signatures) =
      (clientReferences signatures).map importOf := by
    rw [imports, bodyRows_clientFile, imports_clientRows]
  refine ⟨⟨clientReferences signatures, himports, ascending_clientReferences signatures,
    fun n => mem_clientReferences_iff⟩, ?_, ?_⟩
  · intro s hs
    rw [bodyRows_clientFile]
    exact methodHead_mem_clientRows hs client (clientReferences signatures)
  · intro s hs t ht n hn
    obtain ⟨k, hk⟩ := mem_names_iff.mp hn
    refine ⟨k, hk, hk ▸ Language.type_inArrays .python false k (.named n), ?_⟩
    rw [himports]
    exact List.mem_map_of_mem (mem_clientReferences_iff.mpr ⟨s, hs, t, ht, hn⟩)

theorem packageImports (namespaceName client : String) (models : List Model) :
    PackageImports namespaceName client models
      (packageFile namespaceName client (models.map (·.name))) := by
  refine ⟨?_, ?_, exports client (models.map (·.name)), ?_, ?_, ?_⟩
  · rw [imports, bodyRows_packageFile, imports_packageRows]
  · rw [rebuilt, bodyRows_packageFile, rebuilt_packageRows, List.map_map]
    rfl
  · rw [bodyRows_packageFile, packageRows, List.getLast?_append]
    rfl
  · exact ascending_sorted (nodup_firstOccurrences _)
  · intro c
    simp [exports, eq_comm]

/-- The names that imports in a library lead to: those of its models and that of the client. -/
theorem exists_file_of_name {n : String}
    (hn : n ∈ (models .python document).map (·.name) ++ [client]) :
    ∃ g ∈ (generate ⟨.python, namespaceName, client⟩ document).files,
      g.name = (importOf n).unit ∧ (importOf n).name ∈ classes namespaceName g := by
  rcases List.mem_append.mp hn with hn | hn
  · obtain ⟨m, hm, rfl⟩ := List.mem_map.mp hn
    refine ⟨modelFile .python namespaceName m, ?_, rfl, ?_⟩
    · exact List.mem_append_left _ (List.mem_map_of_mem hm)
    · rw [(modelImports namespaceName m).defined]
      exact List.mem_singleton_self _
  · rw [List.mem_singleton.mp hn]
    refine ⟨clientFile .python namespaceName client (methods .python document), ?_, rfl, ?_⟩
    · exact List.mem_append_right _ List.mem_cons_self
    · rw [classes, bodyRows_clientFile, classes_clientRows]
      exact List.mem_singleton_self _

/-- The models of a library are closed, and so every import has one of their names or that of the
client. -/
theorem exists_name_of_import {f : SourceFile}
    (hf : f ∈ (generate ⟨.python, namespaceName, client⟩ document).files) {i : Import}
    (hi : i ∈ imports namespaceName f) :
    ∃ n ∈ (models .python document).map (·.name) ++ [client], i = importOf n := by
  simp only [generate, List.mem_append, List.mem_map, List.mem_cons, Language.supportFiles,
    List.not_mem_nil, or_false] at hf
  rcases hf with ⟨m, hm, rfl⟩ | rfl | rfl
  · rw [imports, bodyRows_modelFile, imports_modelRows] at hi
    obtain ⟨n, hn, rfl⟩ := List.mem_map.mp hi
    obtain ⟨x, hx, hnx⟩ := Model.mem_references_iff.mp (List.mem_of_mem_filter hn)
    obtain ⟨o, ho, rfl⟩ := exists_model_of_field hm hx hnx
    exact ⟨o.name, List.mem_append_left _ (List.mem_map_of_mem ho), rfl⟩
  · rw [imports, bodyRows_clientFile, imports_clientRows] at hi
    obtain ⟨n, hn, rfl⟩ := List.mem_map.mp hi
    obtain ⟨s, hs, t, ht, hnt⟩ := mem_clientReferences_iff.mp hn
    obtain ⟨o, ho, rfl⟩ := exists_model_of_type hs ht hnt
    exact ⟨o.name, List.mem_append_left _ (List.mem_map_of_mem ho), rfl⟩
  · rw [imports, bodyRows_packageFile, imports_packageRows] at hi
    obtain ⟨n, hn, rfl⟩ := List.mem_map.mp hi
    exact ⟨n, hn, rfl⟩

theorem importsFound (namespaceName client : String) (document : Document) :
    ImportsFound namespaceName (generate ⟨.python, namespaceName, client⟩ document).files := by
  intro f hf i hi
  obtain ⟨n, hn, rfl⟩ := exists_name_of_import hf hi
  exact exists_file_of_name hn

theorem generate_imports (namespaceName client : String) (document : Document) :
    ImportsFound namespaceName (generate ⟨.python, namespaceName, client⟩ document).files ∧
      ∃ modelFiles clientFile package,
        (generate ⟨.python, namespaceName, client⟩ document).files =
          modelFiles ++ [clientFile, package] ∧
        List.Forall₂ (ModelImports namespaceName) (models .python document) modelFiles ∧
        ClientImports namespaceName (methods .python document) clientFile ∧
        PackageImports namespaceName client (models .python document) package := by
  refine ⟨importsFound namespaceName client document, _, _, _, rfl, ?_, ?_, ?_⟩
  · rw [List.forall₂_map_right_iff, List.forall₂_same]
    intro m _
    exact modelImports namespaceName m
  · exact clientImports namespaceName client (methods .python document)
  · exact packageImports namespaceName client (models .python document)

end Library

end ApiStubs
