import ApiStubs.Proofs.Library.FileNames
import ApiStubs.Proofs.Library.Package

/-! # Class identifiers of a library

Models and client are classes under the identifiers of their names. Nobody compares these, even
where the files have names of their own. The classes of a library are apart if and only if no two of
the names have one spelling as identifiers, and then no file of a package binds one class twice.
-/

namespace ApiStubs

open Naming

/-- What the imports and the classes of a file bind, in order. -/
def Python.bindings (namespaceName : String) (f : SourceFile) : List String :=
  (imports namespaceName f).map (·.name) ++ classes namespaceName f

namespace Library

variable {plan : Plan} {d : Document} {language : Language} {a b : String}

/-- Classes that do not get in each other's way: they have different identifiers, and no file of a
package binds one of these twice. -/
structure ClassesApart (plan : Plan) (d : Document) : Prop where
  identifiers : ((writtenNames plan d).map plan.language.naming.identifier).Nodup
  bindings : plan.language = .python → ∀ f ∈ (generate plan d).files,
    (Python.bindings plan.namespaceName f).Nodup

/-- Two names with one identifier. In C# they are equal once other characters are underscores and
one stands in front of a digit; in Python they have the same words from the start of an identifier
on. -/
def SharesClass (language : Language) (a b : String) : Prop :=
  match language with
  | .csharp => Marked.spelling a = Marked.spelling b
  | .python => Snake.begun (words a.toList) = Snake.begun (words b.toList)

theorem sharesClass_iff :
    SharesClass language a b ↔ language.naming.identifier a = language.naming.identifier b := by
  cases language with
  | csharp => exact Marked.identifier_eq_iff.symm
  | python => exact Snake.clean_eq_iff.symm

theorem nodup_identifiers_iff : ((writtenNames plan d).map plan.language.naming.identifier).Nodup ↔
    (writtenNames plan d).Pairwise fun a b => ¬ SharesClass plan.language a b := by
  rw [List.Nodup, List.pairwise_map]
  simp only [sharesClass_iff]

/-- A file binds the identifiers of different names, all of which are written. -/
theorem exists_names_of_bindings (hl : plan.language = .python) (hn : (writtenNames plan d).Nodup)
    {f : SourceFile} (hf : f ∈ (generate plan d).files) :
    ∃ names, names.Nodup ∧ names ⊆ writtenNames plan d ∧
      Python.bindings plan.namespaceName f = names.map Python.identifier := by
  obtain ⟨language, namespaceName, client⟩ := plan
  obtain rfl : language = .python := hl
  have hclient : ∀ m ∈ models .python d, m.name ≠ client := by
    intro m hm he
    have hdisjoint := (List.nodup_append.mp hn).2.2
    exact hdisjoint m.name (List.mem_map_of_mem hm) client (List.mem_singleton_self _) he
  simp only [generate, List.mem_append, List.mem_map, List.mem_cons, Language.supportFiles,
    List.not_mem_nil, or_false] at hf
  rcases hf with ⟨m, hm, rfl⟩ | rfl | rfl
  · refine ⟨m.references.filter (· ≠ m.name) ++ [m.name], ?_, ?_, ?_⟩
    · rw [List.nodup_append_comm, List.singleton_append, List.nodup_cons]
      refine ⟨by simp, ?_⟩
      exact (nodup_firstOccurrences _).filter _
    · intro n hn
      rcases List.mem_append.mp hn with hn | hn
      · have hmem := closed_models .python d m hm n (List.mem_of_mem_filter hn)
        exact List.mem_append_left _ hmem
      · rw [List.mem_singleton.mp hn]
        exact List.mem_append_left _ (List.mem_map_of_mem hm)
    · rw [Python.bindings, (modelImports namespaceName m).defined, Python.imports,
        bodyRows_modelFile, Python.imports_modelRows, List.map_append, List.map_map]
      rfl
  · refine ⟨clientReferences (methods .python d) ++ [client], ?_, ?_, ?_⟩
    · rw [List.nodup_append_comm, List.singleton_append, List.nodup_cons]
      constructor
      · intro hmem
        obtain ⟨s, hs, t, ht, hnt⟩ := mem_clientReferences_iff.mp hmem
        obtain ⟨m, hm, he⟩ := exists_model_of_type hs ht hnt
        exact hclient m hm he
      · exact (ascending_clientReferences (methods .python d)).imp String.ne_of_lt
    · intro n hn
      rcases List.mem_append.mp hn with hn | hn
      · obtain ⟨s, hs, t, ht, hnt⟩ := mem_clientReferences_iff.mp hn
        obtain ⟨m, hm, rfl⟩ := exists_model_of_type hs ht hnt
        exact List.mem_append_left _ (List.mem_map_of_mem hm)
      · exact List.mem_append_right _ hn
    · rw [Python.bindings, Python.imports, Python.classes, bodyRows_clientFile,
        Python.imports_clientRows, Python.classes_clientRows, List.map_append, List.map_map]
      rfl
  · refine ⟨writtenNames ⟨.python, namespaceName, client⟩ d, hn, List.Subset.refl _, ?_⟩
    rw [Python.bindings, Python.imports, Python.classes, Python.bodyRows_packageFile,
      Python.imports_packageRows, Python.classes_packageRows, List.append_nil, List.map_map]
    rfl

theorem classesApart_iff (plan : Plan) (d : Document) : ClassesApart plan d ↔
    (writtenNames plan d).Pairwise fun a b => ¬ SharesClass plan.language a b := by
  rw [← nodup_identifiers_iff]
  constructor
  · intro h
    exact h.identifiers
  · intro h
    refine ⟨h, fun hl f hf => ?_⟩
    obtain ⟨names, hnames, hsub, he⟩ := exists_names_of_bindings hl (.of_map _ h) hf
    rw [he]
    refine hnames.map_on fun a ha b hb hab => ?_
    rw [hl] at h
    exact List.inj_on_of_nodup_map h (hsub ha) (hsub hb) hab

/-- Two schemas whose names differ in a mark in front. -/
def sharedClasses : Document where
  schemas := Table.ofList [("_Pet", { kind := .object }), ("-Pet", { kind := .object })]

/-- In both languages the files have names of their own, and the classes have not. -/
theorem not_classesApart_sharedClasses :
    (((generate { language := .csharp } sharedClasses).files.map (·.fileName)).Nodup ∧
      ¬ ClassesApart { language := .csharp } sharedClasses) ∧
    ((generate { language := .python } sharedClasses).files.map (·.fileName)).Nodup ∧
      ¬ ClassesApart { language := .python } sharedClasses := by
  refine ⟨⟨by decide +kernel, ?_⟩, by decide +kernel, ?_⟩
  · intro h; exact absurd h.identifiers (by decide +kernel)
  · intro h; exact absurd h.identifiers (by decide +kernel)

end Library

end ApiStubs
