import ApiStubs.Proofs.Library.Accounting
import ApiStubs.Proofs.Library.Distinct
import ApiStubs.Proofs.Library.References

/-! # Adding and reordering schemas

Methods depend on schemas only through the models that are there, and the largest closed set grows
with the models that it is taken from. So a further schema takes nothing away, and the order of the
schemas changes no more than the order of what is written and which missing model is blamed.
-/

namespace ApiStubs

/-- A table with one more entry at a position, or at the end if there are fewer entries. -/
def Table.insertAt {κ α : Type} (t : Table κ α) (i : ℕ) (k : κ) (v : α) (h : k ∉ t.keys) :
    Table κ α where
  entries := t.entries.take i ++ (k, v) :: t.entries.drop i
  nodup := by
    have hperm : (t.entries.take i ++ (k, v) :: t.entries.drop i).Perm ((k, v) :: t.entries) := by
      refine List.perm_middle.trans (.cons _ ?_)
      rw [List.take_append_drop]
    exact (hperm.map Prod.fst).nodup_iff.mpr (List.nodup_cons.mpr ⟨h, t.nodup⟩)

theorem Table.entries_sublist_insertAt {κ α : Type} (t : Table κ α) (i : ℕ) {k : κ} (v : α)
    (h : k ∉ t.keys) : t.entries.Sublist (t.insertAt i k v h).entries := by
  conv_lhs => rw [← List.take_append_drop i t.entries]
  exact (List.sublist_cons_self _ _).append_left _

theorem Table.mem_keys_insertAt {κ α : Type} (t : Table κ α) (i : ℕ) {k key : κ} (v : α)
    (h : k ∉ t.keys) : key ∈ (t.insertAt i k v h).keys ↔ key = k ∨ key ∈ t.keys := by
  have hkeys : t.keys = (t.entries.take i).map Prod.fst ++ (t.entries.drop i).map Prod.fst := by
    rw [← List.map_append, List.take_append_drop, keys]
  rw [hkeys]
  simp only [keys, insertAt, List.map_append, List.map_cons, List.mem_append, List.mem_cons]
  exact or_left_comm

/-- A document with other schemas. -/
def Document.withSchemas (d : Document) (schemas : Table String Schema) : Document :=
  { d with schemas }

theorem Document.routes_withSchemas (d : Document) (schemas : Table String Schema) :
    (d.withSchemas schemas).routes = d.routes := rfl

namespace Library

variable {language : Language} {plan : Plan} {d d' : Document} {name : String}

section TwoDocuments

theorem models_subset_models (h : builtModels language d ⊆ builtModels language d') :
    models language d ⊆ models language d' := by
  have hkept := isLargestClosed_models language d
  exact (isLargestClosed_models language d').largest _ (List.Subset.trans hkept.sublist.subset h)
    hkept.closed

theorem models_sublist_models (h : (builtModels language d).Sublist (builtModels language d')) :
    (models language d).Sublist (models language d') := by
  have hkept : (models language d).filter (fun m =>
      m.name ∉ (closeModels (builtModels language d')).2.map (·.name)) = models language d :=
    List.filter_eq_self.mpr fun m hm =>
      decide_eq_true (mem_models_iff.mp (models_subset_models h.subset hm)).2
  rw [models_eq_filter language d', ← hkept]
  exact ((models_sublist language d).trans h).filter _

theorem firstMissing_eq_none_of_subset {present present' : List Model} {references : List String}
    (hs : present ⊆ present') (h : firstMissing present references = none) :
    firstMissing present' references = none :=
  firstMissing_eq_none_iff.mpr fun r hr =>
    List.map_subset _ hs (firstMissing_eq_none_iff.mp h r hr)

theorem methodAttempts_congr (h : d'.routes = d.routes) :
    methodAttempts language d' = methodAttempts language d := by
  rw [methodAttempts, methodAttempts, h]

theorem builtSignatures_congr (h : d'.routes = d.routes) :
    builtSignatures language d' = builtSignatures language d := by
  rw [builtSignatures, builtSignatures, methodAttempts_congr h]

theorem methods_sublist_methods (hroutes : d'.routes = d.routes)
    (hs : models language d ⊆ models language d') :
    (methods language d).Sublist (methods language d') := by
  rw [methods, methods, builtSignatures_congr hroutes]
  refine List.monotone_filter_right _ fun s hresolved => ?_
  rw [Option.isNone_iff_eq_none] at hresolved ⊢
  exact firstMissing_eq_none_of_subset hs hresolved

theorem firstMissing_perm {present present' : List Model} (h : present.Perm present')
    (references : List String) :
    firstMissing present references = firstMissing present' references := by
  have hany : ∀ r, present.any (·.name == r) = present'.any (·.name == r) := fun r => h.any_eq
  simp only [firstMissing, hany]

end TwoDocuments

section Files

theorem filter_kind {files : List SourceFile} {kind : FileKind} (h : ∀ f ∈ files, f.kind = kind)
    (other : FileKind) :
    files.filter (·.kind = other) = if kind = other then files else [] := by
  split
  · next he => exact List.filter_eq_self.mpr fun f hf => decide_eq_true ((h f hf).trans he)
  · next hne =>
    refine List.filter_eq_nil_iff.mpr fun f hf => ?_
    simpa [h f hf] using hne

/-- The files of a kind: one for each model, one for the client, or those of the language. -/
theorem filter_kind_generate (plan : Plan) (d : Document) (kind : FileKind) :
    (generate plan d).files.filter (·.kind = kind) =
      match kind with
      | .model => (models plan.language d).map (modelFile plan.language plan.namespaceName)
      | .client =>
        [clientFile plan.language plan.namespaceName plan.client (methods plan.language d)]
      | .support => plan.language.supportFiles plan.namespaceName plan.client
          ((models plan.language d).map (·.name)) := by
  have hmodels : ∀ f ∈ (models plan.language d).map (modelFile plan.language plan.namespaceName),
      f.kind = .model := by
    intro f hf
    obtain ⟨m, -, rfl⟩ := List.mem_map.mp hf
    rfl
  have hclient : ∀ f ∈ [clientFile plan.language plan.namespaceName plan.client
      (methods plan.language d)], f.kind = .client := by
    intro f hf
    rw [List.mem_singleton.mp hf, clientFile]
  have hsupport := supportFiles_kind plan.language plan.namespaceName plan.client
    ((models plan.language d).map (·.name))
  rw [generate, ← List.singleton_append, List.filter_append, List.filter_append,
    filter_kind hmodels, filter_kind hclient, filter_kind hsupport]
  cases kind <;> simp

theorem modelFiles_generate (plan : Plan) (d : Document) :
    (generate plan d).modelFiles =
      (models plan.language d).map (modelFile plan.language plan.namespaceName) :=
  filter_kind_generate plan d .model

end Files

section Insertion

/-- Nothing of a library is lost in another one: all models and methods are there, as they were and
in their order, and what is reported as missing was so before, but for the schema of one name. -/
structure NothingLost (plan : Plan) (d d' : Document) (name : String) : Prop where
  models : (generate plan d).modelFiles.Sublist (generate plan d').modelFiles
  methods : (methods plan.language d).Sublist (methods plan.language d')
  issues : ∀ i ∈ (generate plan d').issues,
    (i ∈ modelIssues plan.language d' ∧ i.entity = name) ∨
      ∃ j ∈ (generate plan d).issues, j.entity = i.entity

theorem exists_modelIssue {i : Issue}
    (hkeys : ∀ key ∈ d'.schemas.keys, key = name ∨ key ∈ d.schemas.keys)
    (hs : models language d ⊆ models language d') (hi : i ∈ modelIssues language d')
    (hne : i.entity ≠ name) : ∃ j ∈ modelIssues language d, j.entity = i.entity := by
  obtain ⟨hkey, hout⟩ := mem_modelIssues_entities_iff.mp (List.mem_map_of_mem hi)
  exact List.mem_map.mp (mem_modelIssues_entities_iff.mpr
    ⟨(hkeys _ hkey).resolve_left hne, fun h => hout (List.map_subset _ hs h)⟩)

theorem exists_methodIssue {i : Issue} (hroutes : d'.routes = d.routes)
    (hs : models language d ⊆ models language d') (hi : i ∈ methodIssues language d') :
    ∃ j ∈ methodIssues language d, j.entity = i.entity := by
  simp only [methodIssues, methodAttempts_congr hroutes, builtSignatures_congr hroutes,
    List.mem_append] at hi ⊢
  rcases hi with (hfailed | hshared) | hunresolved
  · exact ⟨i, .inl (.inl hfailed), rfl⟩
  · exact ⟨i, .inl (.inr hshared), rfl⟩
  · obtain ⟨s, hdistinct, hmap⟩ := List.mem_filterMap.mp hunresolved
    obtain ⟨missing, hmissing, rfl⟩ := Option.map_eq_some_iff.mp hmap
    cases h : firstMissing (models language d) s.references with
    | none =>
      rw [firstMissing_eq_none_of_subset hs h] at hmissing
      cases hmissing
    | some r =>
      refine ⟨⟨s.label, .unresolvedModel s.label r⟩, .inr ?_, rfl⟩
      exact List.mem_filterMap.mpr ⟨s, hdistinct, by rw [h, Option.map_some]⟩

theorem generate_insertAt (plan : Plan) (d : Document) (i : ℕ) (schema : Schema)
    (h : name ∉ d.schemas.keys) :
    NothingLost plan d (d.withSchemas (d.schemas.insertAt i name schema h)) name := by
  have hbuilt : (builtModels plan.language d).Sublist (builtModels plan.language
      (d.withSchemas (d.schemas.insertAt i name schema h))) := by
    rw [builtModels_eq, builtModels_eq]
    exact (d.schemas.entries_sublist_insertAt i schema h).filterMap _
  have hmodels := models_sublist_models hbuilt
  have hroutes := d.routes_withSchemas (d.schemas.insertAt i name schema h)
  refine ⟨?_, methods_sublist_methods hroutes hmodels.subset, fun x hx => ?_⟩
  · rw [modelFiles_generate, modelFiles_generate]
    exact hmodels.map _
  · rcases List.mem_append.mp hx with hx | hx
    · by_cases hname : x.entity = name
      · exact .inl ⟨hx, hname⟩
      · have hkeys : ∀ key ∈ (d.schemas.insertAt i name schema h).keys,
            key = name ∨ key ∈ d.schemas.keys :=
          fun _ => (d.schemas.mem_keys_insertAt i schema h).mp
        obtain ⟨j, hj, he⟩ := exists_modelIssue hkeys hmodels.subset hx hname
        exact .inr ⟨j, List.mem_append_left _ hj, he⟩
    · obtain ⟨j, hj, he⟩ := exists_methodIssue hroutes hmodels.subset hx
      exact .inr ⟨j, List.mem_append_right _ hj, he⟩

/-- A call for a model that holds another one, which has no schema. -/
def unfinished : Document where
  schemas := Table.ofList [("Basket", holderOf ["Item"])]
  routes :=
    [{ path := "/basket", operations := Table.ofList [(.get, {
        verb := .get
        responses := Table.ofList
          [("200", Table.ofList [("application/json", referenceTo "Basket")])] })] }]

theorem generate_insertAt_unfinished : "Item" ∉ unfinished.schemas.keys ∧
    ∃ h, NothingLost { language := .python } unfinished (unfinished.withSchemas
      (unfinished.schemas.insertAt 0 "Item" { kind := .object } h)) "Item" := by
  have h : "Item" ∉ unfinished.schemas.keys := by decide +kernel
  exact ⟨h, h, generate_insertAt _ unfinished 0 { kind := .object } h⟩

end Insertion

section Order

/-- An issue without the model that it blames. -/
def unblamed (i : Issue) : Issue :=
  match i.problem with
  | .unresolvedModel entity _ => ⟨i.entity, .unresolvedModel entity ""⟩
  | _ => i

/-- Two libraries with the same models and issues in any order, in which only the blame for a
missing model may differ, and with one client. -/
structure SameUpToOrder (l l' : Library) : Prop where
  models : l'.modelFiles.Perm l.modelFiles
  client : l'.files.filter (·.kind = .client) = l.files.filter (·.kind = .client)
  issues : (l'.issues.map unblamed).Perm (l.issues.map unblamed)

theorem models_perm (h : (builtModels language d').Perm (builtModels language d)) :
    (models language d').Perm (models language d) := by
  have hnodup : ∀ e, (models language e).Nodup := fun e => .of_map _ (nodup_models_names language e)
  refine (List.perm_ext_iff_of_nodup (hnodup d') (hnodup d)).mpr fun m => ⟨?_, ?_⟩
  · exact fun hm => models_subset_models h.subset hm
  · exact fun hm => models_subset_models h.symm.subset hm

theorem methods_perm (hroutes : d'.routes = d.routes)
    (h : (models language d').Perm (models language d)) :
    methods language d' = methods language d := by
  simp only [methods, resolvedMethods, builtSignatures_congr hroutes, firstMissing_perm h]

theorem methodIssues_perm (hroutes : d'.routes = d.routes)
    (h : (models language d').Perm (models language d)) :
    methodIssues language d' = methodIssues language d := by
  simp only [methodIssues, unresolvedIssues, methodAttempts_congr hroutes,
    builtSignatures_congr hroutes, firstMissing_perm h]

theorem dropped_names_perm (h : (builtModels language d').Perm (builtModels language d)) :
    ((closeModels (builtModels language d')).2.map (·.name)).Perm
      ((closeModels (builtModels language d)).2.map (·.name)) := by
  refine (List.perm_ext_iff_of_nodup (nodup_dropped_names language d')
    (nodup_dropped_names language d)).mpr fun name => ?_
  rw [mem_dropped_names_iff, mem_dropped_names_iff, (h.map _).mem_iff,
    ((models_perm h).map _).mem_iff]

theorem modelIssues_perm (h : d'.schemas.entries.Perm d.schemas.entries)
    (hbuilt : (builtModels language d').Perm (builtModels language d)) :
    ((modelIssues language d').map unblamed).Perm ((modelIssues language d).map unblamed) := by
  have hdropped : unblamed ∘ Dropped.issue =
      (fun name => ⟨name, .unresolvedModel name ""⟩) ∘ (·.name) := rfl
  rw [modelIssues, modelIssues, List.map_append, List.map_append, List.map_map, List.map_map,
    hdropped, ← List.map_map, ← List.map_map, modelFailures_eq, modelFailures_eq]
  exact ((h.filterMap _).map _).append ((dropped_names_perm hbuilt).map _)

theorem generate_withSchemas (plan : Plan) (d : Document) {schemas : Table String Schema}
    (h : schemas.entries.Perm d.schemas.entries) :
    SameUpToOrder (generate plan d) (generate plan (d.withSchemas schemas)) := by
  have hbuilt : (builtModels plan.language (d.withSchemas schemas)).Perm
      (builtModels plan.language d) := by
    rw [builtModels_eq, builtModels_eq]
    exact h.filterMap _
  have hmodels := models_perm hbuilt
  have hroutes := d.routes_withSchemas schemas
  refine ⟨?_, ?_, ?_⟩
  · rw [modelFiles_generate, modelFiles_generate]
    exact hmodels.map _
  · rw [filter_kind_generate, filter_kind_generate]
    simp only [methods_perm hroutes hmodels]
  · rw [generate, generate, List.map_append, List.map_append, methodIssues_perm hroutes hmodels]
    exact (modelIssues_perm h hbuilt).append_right _

/-- Two models that hold one without a schema, and one that holds both of them. -/
def twoCauses : Document where
  schemas :=
    ⟨[("Left", holderOf ["Item"]), ("Both", holderOf ["Left", "Right"]),
      ("Right", holderOf ["Item"])], by decide⟩

theorem generate_withSchemas_twoCauses :
    twoCauses.schemas.entries.reverse.Perm twoCauses.schemas.entries ∧
      ∃ h, SameUpToOrder (generate { language := .python } twoCauses)
        (generate { language := .python }
          (twoCauses.withSchemas ⟨twoCauses.schemas.entries.reverse, h⟩)) := by
  have hperm := List.reverse_perm twoCauses.schemas.entries
  have hnodup := (hperm.map Prod.fst).nodup_iff.mpr twoCauses.schemas.nodup
  exact ⟨hperm, hnodup, generate_withSchemas _ twoCauses hperm⟩

/-- The model that holds both blames the one that is swept away before it. -/
example :
    ((generate { language := .python } twoCauses).issues.map (·.problem)).contains
      (.unresolvedModel "Both" "Left") = true := by decide +kernel

end Order

end Library

end ApiStubs
