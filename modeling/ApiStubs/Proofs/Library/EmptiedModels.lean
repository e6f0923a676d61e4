import ApiStubs.Proofs.Library.AnyTypes

/-! # Schemas whose models are emptied

A model is built from the properties of a schema and from nothing else of it, as if every schema
were an object. So a schema of another kind without properties has a model without fields, and
nothing is said of an array without items, of a reference to a missing model or of an unknown shape.
-/

namespace ApiStubs

/-- An object with the properties of a schema. -/
def Schema.asObject (s : Schema) : Schema where
  kind := .object
  properties := s.properties

/-- A document with an object for every schema. -/
def Document.asObjects (d : Document) : Document where
  title := d.title
  version := d.version
  schemas :=
    ⟨d.schemas.entries.map fun p => (p.1, p.2.asObject), by
      simpa [Function.comp_def] using d.schemas.nodup⟩
  routes := d.routes

namespace Library

variable {language : Language} {plan : Plan} {d : Document} {p : String × Schema}

section Objects

theorem modelAttempts_asObjects (language : Language) (d : Document) :
    modelAttempts language d.asObjects = modelAttempts language d := by
  rw [modelAttempts, Document.asObjects, List.map_map]
  rfl

theorem models_asObjects (language : Language) (d : Document) :
    models language d.asObjects = models language d := by
  rw [models, models, builtModels, builtModels, modelAttempts_asObjects]

theorem examinedSites_asObjects (language : Language) (d : Document) :
    examinedSites language d.asObjects = examinedSites language d := by
  rw [examinedSites, Document.asObjects, List.flatMap_map]
  rfl

theorem fieldless_mem_builtModels (hp : p ∈ d.schemas.entries) (hnone : p.2.properties = []) :
    ⟨p.1, []⟩ ∈ builtModels language d := by
  refine mem_builtModels.mpr ⟨p, hp, ?_⟩
  rw [buildModel, hnone]
  rfl

/-- Whatever is without properties has a model, since nothing can be missing from it. -/
theorem fieldless_mem_models (hp : p ∈ d.schemas.entries) (hnone : p.2.properties = []) :
    ⟨p.1, []⟩ ∈ models language d := by
  have hlargest := isLargestClosed_models language d
  refine hlargest.largest (⟨p.1, []⟩ :: models language d) ?_ ?_ List.mem_cons_self
  · exact List.cons_subset.mpr ⟨fieldless_mem_builtModels hp hnone, hlargest.sublist.subset⟩
  · intro m hm r hr
    rcases List.mem_cons.mp hm with rfl | hm
    · cases hr
    · exact List.mem_cons_of_mem _ (hlargest.closed m hm r hr)

end Objects

/-- A warning about a schema of a document: its shape is not known, or it is left out. -/
inductive WarnsOf (name : String) : Notice → Prop where
  | unmodeled (rawType : String) : WarnsOf name (.unmodeled name rawType)
  | skipped (problem : Problem) : WarnsOf name (.modelSkipped name problem)

/-- Schemas of a document are treated as those of properties are: none with an array without items
or with a reference to a missing model has a model, and all of a shape that is not known are warned
about. -/
structure NotEmptied (plan : Plan) (d : Document) : Prop where
  leftOut : ∀ p ∈ d.schemas.entries,
    (p.2.type? = none ∨ ∃ t, p.2.type? = some t ∧ ∃ name ∈ t.names,
      name ∉ (models plan.language d).map (·.name)) →
    p.1 ∉ (models plan.language d).map (·.name) ∧ ∃ i ∈ (generate plan d).issues, i.entity = p.1
  warned : ∀ p ∈ d.schemas.entries, p.2.unmodeled?.isSome → ∃ n ∈ notices plan d, WarnsOf p.1 n

theorem exists_warnsOf_iff (hp : p ∈ d.schemas.entries) :
    (∃ n ∈ notices plan d, WarnsOf p.1 n) ↔
      (p.1 ∈ (models plan.language d).map (·.name) → ∃ site ∈ examinedSites plan.language d,
        site.name = p.1 ∧ site.schema.leaf.kind = .unknown) := by
  constructor
  · rintro ⟨n, hn, hwarns⟩ hwritten
    cases hwarns with
    | unmodeled rawType => exact exists_unmodeled_iff.mp ⟨rawType, hn⟩
    | skipped problem =>
      have hissue := List.mem_map_of_mem (f := Issue.entity) (modelSkipped_mem_notices_iff.mp hn)
      exact absurd hwritten (mem_modelIssues_entities_iff.mp hissue).2
  · intro h
    by_cases hwritten : p.1 ∈ (models plan.language d).map (·.name)
    · obtain ⟨rawType, hn⟩ := exists_unmodeled_iff.mpr (h hwritten)
      exact ⟨_, hn, .unmodeled rawType⟩
    · have hissue := mem_modelIssues_entities_iff.mpr ⟨List.mem_map_of_mem hp, hwritten⟩
      obtain ⟨i, hi, he⟩ := List.mem_map.mp hissue
      refine ⟨.modelSkipped p.1 i.problem, modelSkipped_mem_notices_iff.mpr ?_, .skipped _⟩
      rwa [← he]

/-- No schema is emptied exactly if those that have models for their properties alone have types
that refer to such schemas only, and those that are not known share their names with parts that are
warned about. -/
theorem notEmptied_iff (plan : Plan) (d : Document) :
    NotEmptied plan d ↔
      ∀ p ∈ d.schemas.entries, p.1 ∈ (models plan.language d.asObjects).map (·.name) →
        (∃ t, p.2.type? = some t ∧
          ∀ name ∈ t.names, name ∈ (models plan.language d.asObjects).map (·.name)) ∧
        (p.2.leaf.kind = .unknown → ∃ site ∈ examinedSites plan.language d.asObjects,
          site.name = p.1 ∧ site.schema.leaf.kind = .unknown) := by
  simp only [models_asObjects, examinedSites_asObjects]
  constructor
  · intro h p hp hwritten
    constructor
    · by_contra hbad
      simp only [not_exists, not_and, not_forall] at hbad
      refine (h.leftOut p hp ?_).1 hwritten
      cases ht : p.2.type? with
      | none => exact .inl rfl
      | some t =>
        obtain ⟨name, hname, hout⟩ := hbad t ht
        exact .inr ⟨t, rfl, name, hname, hout⟩
    · intro hunknown
      exact (exists_warnsOf_iff hp).mp
        (h.warned p hp ((Schema.isSome_unmodeled?_iff p.2).mpr hunknown)) hwritten
  · intro h
    constructor
    · intro p hp hbad
      have hout : p.1 ∉ (models plan.language d).map (·.name) := by
        intro hwritten
        obtain ⟨t, ht, hall⟩ := (h p hp hwritten).1
        rcases hbad with hnone | ⟨u, hu, name, hname, hmissing⟩
        · simp [ht] at hnone
        · rw [ht, Option.some.injEq] at hu
          exact hmissing (hall name (hu ▸ hname))
      have hissue := mem_modelIssues_entities_iff.mpr ⟨List.mem_map_of_mem hp, hout⟩
      obtain ⟨i, hi, he⟩ := List.mem_map.mp hissue
      exact ⟨hout, i, List.mem_append_left _ hi, he⟩
    · intro p hp hunknown
      exact (exists_warnsOf_iff hp).mpr fun hwritten =>
        (h p hp hwritten).2 ((Schema.isSome_unmodeled?_iff p.2).mp hunknown)

/-- An array of nothing under a name of its own. -/
def brokenArray : Document where
  schemas := Table.ofList [("Broken", { kind := .array })]

/-- It has a model without fields, so nothing is missing from the library. -/
theorem not_notEmptied_brokenArray :
    ¬ NotEmptied { language := .csharp } brokenArray ∧
      ¬ NotEmptied { language := .python } brokenArray := by
  have hentry : ("Broken", { kind := .array }) ∈ brokenArray.schemas.entries := .head _
  have hno : ∀ plan, ¬ NotEmptied plan brokenArray := fun plan h =>
    (h.leftOut _ hentry (.inl rfl)).1 (List.mem_map_of_mem (fieldless_mem_models hentry rfl))
  exact ⟨hno _, hno _⟩

end Library

end ApiStubs
