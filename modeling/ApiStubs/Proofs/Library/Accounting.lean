import ApiStubs.Proofs.Library.Closure

/-! # Accounting for every entry

Every schema and every operation of a document has one fate. A schema is written or has an issue;
an operation is written, has an issue or is listed with the others of its name. The library holds
what the fates say and nothing else.
-/

namespace ApiStubs.Library

/-- What becomes of an entry of a document. -/
inductive Fate (α : Type) where
  | written (a : α)
  | reported (i : Issue)
  | shared (name : String)
deriving DecidableEq

namespace Fate

variable {α : Type}

def written? : Fate α → Option α
  | written a => some a
  | _ => none

def issue? : Fate α → Option Issue
  | reported i => some i
  | _ => none

end Fate

/-- The fates of a schema: its model, or an issue under its name. -/
inductive IsSchemaFate (language : Language) (kept : List Model) (name : String)
    (schema : Schema) : Fate Model → Prop where
  | written {m : Model} : (buildModel language.naming name schema).outcome = .ok m →
      m.name = name → IsSchemaFate language kept name schema (.written m)
  | failed {problem : Problem} :
      (buildModel language.naming name schema).outcome = .error problem →
      IsSchemaFate language kept name schema (.reported ⟨name, problem⟩)
  | unresolved {m : Model} {missing : String} :
      (buildModel language.naming name schema).outcome = .ok m →
      missing ∈ m.references → missing ∉ kept.map (·.name) →
      IsSchemaFate language kept name schema (.reported ⟨name, .unresolvedModel name missing⟩)

/-- The fates of an operation: its method, an issue under its label, or a name that it shares. -/
inductive IsOperationFate (language : Language) (kept : List Model) (path : String)
    (o : Operation) : Fate Signature → Prop where
  | written {s : Signature} : (buildSignature language.naming path o).outcome = .ok s →
      s.label = operationLabel o.verb path →
      IsOperationFate language kept path o (.written s)
  | failed {problem : Problem} :
      (buildSignature language.naming path o).outcome = .error problem →
      IsOperationFate language kept path o (.reported ⟨operationLabel o.verb path, problem⟩)
  | unresolved {s : Signature} {missing : String} :
      (buildSignature language.naming path o).outcome = .ok s →
      missing ∈ s.references → missing ∉ kept.map (·.name) →
      IsOperationFate language kept path o (.reported
        ⟨operationLabel o.verb path, .unresolvedModel (operationLabel o.verb path) missing⟩)
  | shared {s : Signature} : (buildSignature language.naming path o).outcome = .ok s →
      IsOperationFate language kept path o (.shared s.name)

variable {language : Language} {d : Document}

/-- The labels of the operations with a fate. -/
def labelsWith (fate : String × Operation → Fate Signature) (f : Fate Signature) (d : Document) :
    List String :=
  (d.operations.filter (fate · = f)).map fun p => operationLabel p.2.verb p.1

/-- A library holds the written models and methods of a document in order and the issues of all
other entries. Names that several methods share have one issue each, with the operations in order. -/
structure Accounts (plan : Plan) (d : Document) (l : Library)
    (schemaFate : String × Schema → Fate Model)
    (operationFate : String × Operation → Fate Signature) (shared : List String) : Prop where
  schemas : ∀ p ∈ d.schemas.entries,
    IsSchemaFate plan.language (models plan.language d) p.1 p.2 (schemaFate p)
  operations : ∀ p ∈ d.operations,
    IsOperationFate plan.language (models plan.language d) p.1 p.2 (operationFate p)
  shared_nodup : shared.Nodup
  mem_shared_iff : ∀ name, name ∈ shared ↔ ∃ p ∈ d.operations, operationFate p = .shared name
  several : ∀ name ∈ shared, 1 < (labelsWith operationFate (.shared name) d).length
  files : l.files =
    (d.schemas.entries.filterMap fun p => (schemaFate p).written?).map
        (modelFile plan.language plan.namespaceName) ++
      clientFile plan.language plan.namespaceName plan.client
        (d.operations.filterMap fun p => (operationFate p).written?) ::
      plan.language.supportFiles plan.namespaceName plan.client
        ((d.schemas.entries.filterMap fun p => (schemaFate p).written?).map (·.name))
  support : ∀ f ∈ plan.language.supportFiles plan.namespaceName plan.client
    ((d.schemas.entries.filterMap fun p => (schemaFate p).written?).map (·.name)), f.kind = .support
  issues : l.issues.Perm
    ((d.schemas.entries.filterMap fun p => (schemaFate p).issue?) ++
      (d.operations.filterMap fun p => (operationFate p).issue?) ++
      shared.map fun name =>
        ⟨name, .methodNameCollision name (labelsWith operationFate (.shared name) d)⟩)

def schemaFate (language : Language) (d : Document) (p : String × Schema) : Fate Model :=
  match (buildModel language.naming p.1 p.2).outcome with
  | .error problem => .reported ⟨p.1, problem⟩
  | .ok m =>
    match (closeModels (builtModels language d)).2.find? (·.name = p.1) with
    | some x => .reported x.issue
    | none => .written m

def operationFate (language : Language) (d : Document) (p : String × Operation) :
    Fate Signature :=
  match (buildSignature language.naming p.1 p.2).outcome with
  | .error problem => .reported ⟨operationLabel p.2.verb p.1, problem⟩
  | .ok s =>
    if isShared (builtSignatures language d) s.name then .shared s.name
    else
      match firstMissing (models language d) s.references with
      | some missing => .reported ⟨s.label, .unresolvedModel s.label missing⟩
      | none => .written s

theorem isSchemaFate_schemaFate {p : String × Schema} (hp : p ∈ d.schemas.entries) :
    IsSchemaFate language (models language d) p.1 p.2 (schemaFate language d p) := by
  unfold schemaFate
  split
  · next problem h => exact .failed h
  · next m h =>
    split
    · next x hx =>
      have hname : x.name = p.1 := by simpa using List.find?_some hx
      obtain ⟨o, ho, heo, hr, hout⟩ := exists_built_of_dropped (List.mem_of_find?_eq_some hx)
      have hm : m ∈ builtModels language d := mem_builtModels.mpr ⟨p, hp, h⟩
      obtain rfl : o = m := List.inj_on_of_nodup_map (nodup_builtModels_names language d) ho hm
        (heo.trans (hname.trans (buildModel_name h).symm))
      rw [Dropped.issue, hname]
      exact .unresolved h hr hout
    · exact .written h (buildModel_name h)

theorem isOperationFate_operationFate (language : Language) (d : Document)
    (p : String × Operation) :
    IsOperationFate language (models language d) p.1 p.2 (operationFate language d p) := by
  unfold operationFate
  split
  · next problem h => exact .failed h
  · next s h =>
    split
    · exact .shared h
    · split
      · next missing hm =>
        obtain ⟨hr, hout⟩ := mem_of_firstMissing_eq_some hm
        rw [buildSignature_label h]
        exact .unresolved h hr hout
      · exact .written h (buildSignature_label h)

theorem written?_schemaFate (p : String × Schema) :
    (schemaFate language d p).written? =
      (buildModel language.naming p.1 p.2).outcome.toOption.filter fun m =>
        m.name ∉ (closeModels (builtModels language d)).2.map (·.name) := by
  unfold schemaFate
  split
  · next problem h => rw [h]; rfl
  · next m h =>
    have hname := buildModel_name h
    simp only [h, Except.toOption, Option.filter_some]
    split
    · next x hx =>
      have hin : m.name ∈ (closeModels (builtModels language d)).2.map (·.name) :=
        List.mem_map.mpr ⟨x, List.mem_of_find?_eq_some hx,
          hname ▸ by simpa using List.find?_some hx⟩
      simp only [hin, not_true_eq_false, decide_false]
      rfl
    · next hx =>
      have hout : m.name ∉ (closeModels (builtModels language d)).2.map (·.name) := by
        rw [hname]
        simpa using hx
      simp only [hout, not_false_eq_true, decide_true]
      rfl

theorem issue?_schemaFate (p : String × Schema) :
    (schemaFate language d p).issue? =
      (failure? p.1 (buildModel language.naming p.1 p.2).outcome).or
        (((closeModels (builtModels language d)).2.find? (·.name = p.1)).map Dropped.issue) := by
  unfold schemaFate
  split
  · next problem h => rw [h]; rfl
  · next m h =>
    rw [h]
    split
    · next x hx => rw [hx]; rfl
    · next hx => rw [hx]; rfl

theorem written?_operationFate (p : String × Operation) :
    (operationFate language d p).written? =
      (buildSignature language.naming p.1 p.2).outcome.toOption.filter fun s =>
        !isShared (builtSignatures language d) s.name &&
          (firstMissing (models language d) s.references).isNone := by
  unfold operationFate
  split
  · next problem h => rw [h]; rfl
  · next s h =>
    simp only [h, Except.toOption, Option.filter_some]
    split
    · next hs => simp [hs, Fate.written?]
    · next hs =>
      split
      · next missing hm => simp [hm, Fate.written?]
      · next hm => simp [hs, hm, Fate.written?]

theorem issue?_operationFate (p : String × Operation) :
    (operationFate language d p).issue? =
      (failure? (operationLabel p.2.verb p.1)
          (buildSignature language.naming p.1 p.2).outcome).or
        (((buildSignature language.naming p.1 p.2).outcome.toOption.filter fun s =>
            !isShared (builtSignatures language d) s.name).bind fun s =>
          (firstMissing (models language d) s.references).map fun missing =>
            ⟨s.label, .unresolvedModel s.label missing⟩) := by
  unfold operationFate
  split
  · next problem h => rw [h]; rfl
  · next s h =>
    simp only [h, Except.toOption, Option.filter_some, failure?, Option.none_or]
    split
    · next hs => simp [hs, Fate.issue?]
    · next hs =>
      split
      · next missing hm => simp [hs, hm, Fate.issue?]
      · next hm => simp [hs, hm, Fate.issue?]

theorem filterMap_written_schemaFate (language : Language) (d : Document) :
    (d.schemas.entries.filterMap fun p => (schemaFate language d p).written?) =
      models language d := by
  simp only [written?_schemaFate, ← List.filter_filterMap, ← builtModels_eq, models_eq_filter]

theorem filterMap_written_operationFate (language : Language) (d : Document) :
    (d.operations.filterMap fun p => (operationFate language d p).written?) =
      methods language d := by
  simp only [written?_operationFate, ← List.filter_filterMap, ← builtSignatures_eq, methods,
    resolvedMethods, distinctMethods, List.filter_filter, Bool.and_comm]

theorem perm_issues_schemaFate (language : Language) (d : Document) :
    (d.schemas.entries.filterMap fun p => (schemaFate language d p).issue?).Perm
      (modelIssues language d) := by
  have hbuilt : ∀ x ∈ (closeModels (builtModels language d)).2, ∃ p ∈ d.schemas.entries,
      p.1 = x.name ∧ ∃ m, (buildModel language.naming p.1 p.2).outcome = .ok m := by
    intro x hx
    obtain ⟨m, hm, he, -⟩ := exists_built_of_dropped hx
    obtain ⟨p, hp, hok⟩ := mem_builtModels.mp hm
    exact ⟨p, hp, (buildModel_name hok).symm.trans he, m, hok⟩
  have hdisjoint : ∀ p ∈ d.schemas.entries,
      failure? p.1 (buildModel language.naming p.1 p.2).outcome = none ∨
        ((closeModels (builtModels language d)).2.find? (·.name = p.1)).map Dropped.issue =
          none := by
    intro p hp
    cases hx : (closeModels (builtModels language d)).2.find? (·.name = p.1) with
    | none => exact .inr rfl
    | some x =>
      obtain ⟨q, hq, he, m, hok⟩ := hbuilt x (List.mem_of_find?_eq_some hx)
      obtain rfl : q = p := List.inj_on_of_nodup_map d.schemas.nodup hq hp
        (he.trans (by simpa using List.find?_some hx))
      exact .inl (by rw [hok]; rfl)
  have hdropped : (d.schemas.entries.filterMap fun p =>
      ((closeModels (builtModels language d)).2.find? (·.name = p.1)).map Dropped.issue).Perm
        ((closeModels (builtModels language d)).2.map Dropped.issue) := by
    have hsub : (closeModels (builtModels language d)).2.map (·.name) ⊆
        d.schemas.entries.map Prod.fst := by
      intro name hname
      obtain ⟨x, hx, rfl⟩ := List.mem_map.mp hname
      obtain ⟨p, hp, he, -⟩ := hbuilt x hx
      exact List.mem_map.mpr ⟨p, hp, he⟩
    have hperm := perm_filterMap_find? d.schemas.nodup (nodup_dropped_names language d) hsub
    rw [List.filterMap_map] at hperm
    rw [← List.map_filterMap]
    exact hperm.map _
  simp only [issue?_schemaFate]
  refine (perm_filterMap_or hdisjoint).trans ?_
  rw [← modelFailures_eq]
  exact hdropped.append_left _

theorem perm_issues_operationFate (language : Language) (d : Document) :
    (d.operations.filterMap fun p => (operationFate language d p).issue?).Perm
      (failures (methodAttempts language d) ++ unresolvedIssues (models language d)
        (distinctMethods (builtSignatures language d))) := by
  simp only [issue?_operationFate]
  refine (perm_filterMap_or fun p _ => ?_).trans ?_
  · cases (buildSignature language.naming p.1 p.2).outcome with
    | ok s => exact .inl rfl
    | error problem => exact .inr rfl
  · rw [← methodFailures_eq, ← List.filterMap_filterMap, ← List.filter_filterMap,
      ← builtSignatures_eq]
    exact .refl _

theorem operationFate_eq_shared_iff {p : String × Operation} {name : String} :
    operationFate language d p = .shared name ↔
      ∃ s, (buildSignature language.naming p.1 p.2).outcome = .ok s ∧ s.name = name ∧
        isShared (builtSignatures language d) name = true := by
  unfold operationFate
  split
  · next problem h => simp [h]
  · next s h =>
    simp only [h, Except.ok.injEq, exists_eq_left']
    split
    · next hs =>
      rw [Fate.shared.injEq]
      exact ⟨fun he => ⟨he, he ▸ hs⟩, And.left⟩
    · next hs =>
      have hno : ¬ (s.name = name ∧ isShared (builtSignatures language d) name = true) :=
        fun ⟨he, h⟩ => hs (he ▸ h)
      rw [iff_false_right hno]
      split <;> simp

/-- The operations that share a name are those whose signatures do. -/
theorem labelsWith_shared {name : String}
    (hname : isShared (builtSignatures language d) name = true) :
    labelsWith (operationFate language d) (.shared name) d =
      labelsOf name (builtSignatures language d) := by
  rw [labelsWith, ← List.filterMap_eq_filter, List.map_filterMap, labelsOf]
  conv_rhs => rw [builtSignatures_eq, List.filter_filterMap, List.map_filterMap]
  refine List.filterMap_congr fun p _ => ?_
  cases h : (buildSignature language.naming p.1 p.2).outcome with
  | error problem =>
    have hne : operationFate language d p ≠ .shared name := fun he => by
      obtain ⟨s, hs, -⟩ := operationFate_eq_shared_iff.mp he
      simp [h] at hs
    simp [Option.guard, hne, Except.toOption]
  | ok s =>
    by_cases hs : s.name = name
    · have he : operationFate language d p = .shared name :=
        operationFate_eq_shared_iff.mpr ⟨s, h, hs, hname⟩
      simp [Option.guard, he, hs, Except.toOption, Option.filter_some, buildSignature_label h]
    · have hne : operationFate language d p ≠ .shared name := fun he => by
        obtain ⟨t, ht, htn, -⟩ := operationFate_eq_shared_iff.mp he
        rw [h, Except.ok.injEq] at ht
        exact hs (ht ▸ htn)
      simp [Option.guard, hne, hs, Except.toOption, Option.filter_some]

theorem mem_sharedNames_iff_operationFate {name : String} :
    name ∈ sharedNames (builtSignatures language d) ↔
      ∃ p ∈ d.operations, operationFate language d p = .shared name := by
  rw [mem_sharedNames]
  constructor
  · intro h
    obtain ⟨s, hs, he⟩ := exists_of_isShared h
    obtain ⟨p, hp, hok⟩ := mem_builtSignatures.mp hs
    exact ⟨p, hp, operationFate_eq_shared_iff.mpr ⟨s, hok, he, h⟩⟩
  · rintro ⟨p, -, hp⟩
    obtain ⟨_, _, _, h⟩ := operationFate_eq_shared_iff.mp hp
    exact h

theorem supportFiles_kind (language : Language) (namespaceName client : String)
    (models : List String) :
    ∀ f ∈ language.supportFiles namespaceName client models, f.kind = .support := by
  cases language <;> simp [Language.supportFiles, Python.packageFile]

theorem generate_accounts (plan : Plan) (d : Document) :
    ∃ schemaFate operationFate shared,
      Accounts plan d (generate plan d) schemaFate operationFate shared := by
  refine ⟨schemaFate plan.language d, operationFate plan.language d,
    sharedNames (builtSignatures plan.language d), fun p hp => isSchemaFate_schemaFate hp,
    fun p _ => isOperationFate_operationFate plan.language d p, nodup_sharedNames _,
    fun name => mem_sharedNames_iff_operationFate, fun name hname => ?_, ?_,
    supportFiles_kind _ _ _ _, ?_⟩
  · rw [labelsWith_shared (mem_sharedNames.mp hname), labelsOf, List.length_map]
    exact of_decide_eq_true (mem_sharedNames.mp hname)
  · rw [filterMap_written_schemaFate, filterMap_written_operationFate]
    rfl
  · have hshared : (sharedNames (builtSignatures plan.language d)).map
        (collisionIssue (builtSignatures plan.language d)) =
        (sharedNames (builtSignatures plan.language d)).map fun name =>
          ⟨name, .methodNameCollision name
            (labelsWith (operationFate plan.language d) (.shared name) d)⟩ :=
      List.map_congr_left fun name hname => by
        rw [collisionIssue, labelsWith_shared (mem_sharedNames.mp hname)]
    have hmethods : (methodIssues plan.language d).Perm
        (failures (methodAttempts plan.language d) ++ unresolvedIssues (models plan.language d)
          (distinctMethods (builtSignatures plan.language d)) ++
          (sharedNames (builtSignatures plan.language d)).map
            (collisionIssue (builtSignatures plan.language d))) := by
      rw [methodIssues, List.append_assoc, List.append_assoc]
      exact List.perm_append_comm.append_left _
    rw [← hshared, List.append_assoc]
    exact (perm_issues_schemaFate plan.language d).symm.append <| hmethods.trans <|
      (perm_issues_operationFate plan.language d).symm.append_right _

end ApiStubs.Library
