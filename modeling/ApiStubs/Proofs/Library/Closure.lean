import ApiStubs.Proofs.Library.Attempts

/-! # The largest closed set of models

A set of models is closed when every model that one of them refers to is among them. Sweep after
sweep, exactly the models outside the largest closed set are dropped, each of them once.
-/

namespace ApiStubs.Library

/-- Every reference of a member is the name of a member. -/
def Closed (models : List Model) : Prop :=
  ∀ m ∈ models, ∀ r ∈ m.references, r ∈ models.map (·.name)

/-- A closed part of some models, in their order, that contains every closed part. -/
structure IsLargestClosed (models part : List Model) : Prop where
  sublist : part.Sublist models
  closed : Closed part
  largest : ∀ other, other ⊆ models → Closed other → other ⊆ part

/-- So many sweeps, the last of which drops nothing: what they start from, leave and drop. -/
inductive Sweeps : ℕ → List Model → List Model → List Dropped → Prop where
  | last {start : List Model} : (sweep start start).2 = [] → Sweeps 1 start start []
  | more {n : ℕ} {start final : List Model} {dropped : List Dropped} :
      (sweep start start).2 ≠ [] → Sweeps n (sweep start start).1 final dropped →
      Sweeps (n + 1) start final ((sweep start start).2 ++ dropped)

variable {n : ℕ} {start present rest final other : List Model} {dropped : List Dropped}
  {language : Language} {d : Document}

theorem sweep_sublist (rest present : List Model) : (sweep rest present).1.Sublist present := by
  rw [sweep_fst]
  exact List.filter_sublist

theorem resolved_of_sweep_nil (h : (sweep rest present).2 = []) :
    ∀ m ∈ rest, ∀ r ∈ m.references, r ∈ present.map (·.name) := by
  induction rest with
  | nil => simp
  | cons m rest ih =>
    cases hm : firstMissing present m.references with
    | none =>
      simp only [sweep, hm] at h
      simpa using ⟨by simpa using firstMissing_eq_none_iff.mp hm, by simpa using ih h⟩
    | some missing => simp [sweep, hm] at h

theorem exists_of_mem_sweep {x : Dropped} (hx : x ∈ (sweep rest present).2) :
    ∃ m ∈ rest, m.name = x.name ∧ x.missing ∈ m.references ∧
      x.missing ∉ (sweep rest present).1.map (·.name) := by
  induction rest generalizing present with
  | nil => simp [sweep] at hx
  | cons m rest ih =>
    cases hm : firstMissing present m.references with
    | none =>
      simp only [sweep, hm] at hx ⊢
      obtain ⟨o, ho, h⟩ := ih hx
      exact ⟨o, List.mem_cons_of_mem m ho, h⟩
    | some missing =>
      simp only [sweep, hm, List.mem_cons] at hx ⊢
      rcases hx with rfl | hx
      · obtain ⟨hr, hn⟩ := mem_of_firstMissing_eq_some hm
        have hs := (sweep_sublist rest (present.filter (·.name ≠ m.name))).trans List.filter_sublist
        exact ⟨m, .inl rfl, rfl, hr, fun h => hn ((hs.map _).subset h)⟩
      · obtain ⟨o, ho, h⟩ := ih hx
        exact ⟨o, .inr ho, h⟩

/-- A sweep never drops a member of a closed set, since all that the set refers to is still there. -/
theorem subset_sweep (hn : ∀ m ∈ rest, ∀ o ∈ present, o.name = m.name → o = m)
    (hc : Closed other) (hs : other ⊆ present) : other ⊆ (sweep rest present).1 := by
  induction rest generalizing present with
  | nil => exact hs
  | cons m rest ih =>
    have hn' := fun a ha => hn a (List.mem_cons_of_mem m ha)
    cases hm : firstMissing present m.references with
    | none => simpa only [sweep, hm] using ih hn' hs
    | some missing =>
      obtain ⟨hr, hmissing⟩ := mem_of_firstMissing_eq_some hm
      have hout : m ∉ other := fun h => hmissing (List.map_subset _ hs (hc m h missing hr))
      simp only [sweep, hm]
      refine ih (fun a ha o ho => hn' a ha o (List.mem_of_mem_filter ho)) fun o ho => ?_
      have hne : o.name ≠ m.name := fun he =>
        hout (hn m List.mem_cons_self o (hs ho) he ▸ ho)
      exact List.mem_filter.mpr ⟨hs ho, by simpa using hne⟩

namespace Sweeps

theorem sublist (h : Sweeps n start final dropped) : final.Sublist start := by
  induction h with
  | last => exact .refl _
  | more _ _ ih => exact ih.trans (sweep_sublist _ _)

theorem closed (h : Sweeps n start final dropped) : Closed final := by
  induction h with
  | last hs => exact resolved_of_sweep_nil hs
  | more _ _ ih => exact ih

theorem subset (h : Sweeps n start final dropped) (hn : (start.map (·.name)).Nodup)
    (hc : Closed other) (hs : other ⊆ start) : other ⊆ final := by
  induction h with
  | last => exact hs
  | @more _ start _ _ _ _ ih =>
    have hinj : ∀ m ∈ start, ∀ o ∈ start, o.name = m.name → o = m :=
      fun m hm o ho => List.inj_on_of_nodup_map hn ho hm
    exact ih (hn.sublist ((sweep_sublist _ _).map _)) (subset_sweep hinj hc hs)

theorem isLargestClosed (h : Sweeps n start final dropped) (hn : (start.map (·.name)).Nodup) :
    IsLargestClosed start final :=
  ⟨h.sublist, h.closed, fun _ hs hc => h.subset hn hc hs⟩

theorem final_eq (h : Sweeps n start final dropped) :
    final = start.filter fun m => m.name ∉ dropped.map (·.name) := by
  induction h with
  | last => simp
  | more _ _ ih =>
    rw [ih, sweep_fst, List.filter_filter]
    refine List.filter_congr fun m _ => Bool.eq_iff_iff.mpr ?_
    simp only [List.map_append, List.mem_append, Bool.and_eq_true, decide_eq_true_eq, not_or]
    exact and_comm

theorem exists_of_dropped (h : Sweeps n start final dropped) {x : Dropped} (hx : x ∈ dropped) :
    ∃ m ∈ start, m.name = x.name ∧ x.missing ∈ m.references ∧
      x.missing ∉ final.map (·.name) := by
  induction h with
  | last => cases hx
  | more _ hs ih =>
    rcases List.mem_append.mp hx with hx | hx
    · obtain ⟨m, hm, he, hr, hout⟩ := exists_of_mem_sweep hx
      exact ⟨m, hm, he, hr, fun h => hout ((hs.sublist.map _).subset h)⟩
    · obtain ⟨m, hm, h⟩ := ih hx
      exact ⟨m, (sweep_sublist _ _).subset hm, h⟩

/-- What an earlier sweep dropped is not there for a later one to drop again. -/
theorem nodup_dropped (h : Sweeps n start final dropped) (hn : (start.map (·.name)).Nodup) :
    (dropped.map (·.name)).Nodup := by
  induction h with
  | last => exact .nil
  | more _ hs ih =>
    rw [List.map_append, List.nodup_append']
    refine ⟨hn.sublist (sweep_dropped_sublist _ _),
      ih (hn.sublist ((sweep_sublist _ _).map _)), fun name hfirst hlater => ?_⟩
    obtain ⟨x, hx, rfl⟩ := List.mem_map.mp hlater
    obtain ⟨m, hm, he, -⟩ := hs.exists_of_dropped hx
    rw [sweep_fst] at hm
    have hout := (List.mem_filter.mp hm).2
    simp only [decide_not, Bool.not_eq_true', decide_eq_false_iff_not] at hout
    exact hout (he ▸ hfirst)

end Sweeps

theorem closeModels_sweeps (start : List Model) :
    ∃ n ≤ start.length + 1, Sweeps n start (closeModels start).1 (closeModels start).2 := by
  fun_induction closeModels start with
  | case1 start round hnil =>
    have hround : round = (start, []) := by
      refine Prod.ext ?_ hnil
      rw [sweep_fst, hnil]
      simp
    rw [hround]
    exact ⟨1, by omega, .last hnil⟩
  | case2 start round hne _ ih =>
    obtain ⟨n, hle, h⟩ := ih
    have hlt : round.1.length < start.length := length_sweep_lt hne
    exact ⟨n + 1, by omega, .more hne h⟩

theorem models_eq_filter (language : Language) (d : Document) :
    models language d = (builtModels language d).filter fun m =>
      m.name ∉ (closeModels (builtModels language d)).2.map (·.name) := by
  obtain ⟨_, _, h⟩ := closeModels_sweeps (builtModels language d)
  exact h.final_eq

theorem mem_models_iff {m : Model} : m ∈ models language d ↔ m ∈ builtModels language d ∧
    m.name ∉ (closeModels (builtModels language d)).2.map (·.name) := by
  rw [models_eq_filter, List.mem_filter, decide_eq_true_eq]

theorem models_sublist (language : Language) (d : Document) :
    (models language d).Sublist (builtModels language d) := by
  rw [models_eq_filter]
  exact List.filter_sublist

theorem nodup_models_names (language : Language) (d : Document) :
    ((models language d).map (·.name)).Nodup :=
  (nodup_builtModels_names language d).sublist ((models_sublist language d).map _)

theorem nodup_dropped_names (language : Language) (d : Document) :
    ((closeModels (builtModels language d)).2.map (·.name)).Nodup := by
  obtain ⟨_, _, h⟩ := closeModels_sweeps (builtModels language d)
  exact h.nodup_dropped (nodup_builtModels_names language d)

/-- A dropped model was built, and it refers to a model that is not written. -/
theorem exists_built_of_dropped {x : Dropped} (hx : x ∈ (closeModels (builtModels language d)).2) :
    ∃ m ∈ builtModels language d, m.name = x.name ∧ x.missing ∈ m.references ∧
      x.missing ∉ (models language d).map (·.name) := by
  obtain ⟨_, _, h⟩ := closeModels_sweeps (builtModels language d)
  exact h.exists_of_dropped hx

theorem modelIssues_ne_name {m : Model} (hm : m ∈ models language d) {i : Issue}
    (hi : i ∈ modelIssues language d) : i.entity ≠ m.name := by
  obtain ⟨hb, hkept⟩ := mem_models_iff.mp hm
  rcases List.mem_append.mp hi with hi | hi
  · exact modelFailures_ne_name hb hi
  · obtain ⟨x, hx, rfl⟩ := List.mem_map.mp hi
    exact fun he => hkept (List.mem_map.mpr ⟨x, hx, he⟩)

theorem isLargestClosed_models (language : Language) (d : Document) :
    IsLargestClosed (builtModels language d) (models language d) := by
  obtain ⟨_, _, h⟩ := closeModels_sweeps (builtModels language d)
  exact h.isLargestClosed (nodup_builtModels_names language d)

theorem mem_keys_of_mem_builtModels {m : Model} (hm : m ∈ builtModels language d) :
    m.name ∈ d.schemas.keys := by
  obtain ⟨p, hp, hok⟩ := mem_builtModels.mp hm
  rw [buildModel_name hok]
  exact List.mem_map_of_mem hp

theorem mem_dropped_names_iff {name : String} :
    name ∈ (closeModels (builtModels language d)).2.map (·.name) ↔
      name ∈ (builtModels language d).map (·.name) ∧
        name ∉ (models language d).map (·.name) := by
  constructor
  · intro h
    obtain ⟨x, hx, rfl⟩ := List.mem_map.mp h
    obtain ⟨m, hm, he, -⟩ := exists_built_of_dropped hx
    refine ⟨List.mem_map.mpr ⟨m, hm, he⟩, fun hwritten => ?_⟩
    obtain ⟨o, ho, heo⟩ := List.mem_map.mp hwritten
    exact (mem_models_iff.mp ho).2 (heo ▸ h)
  · rintro ⟨hbuilt, hout⟩
    obtain ⟨m, hm, rfl⟩ := List.mem_map.mp hbuilt
    by_contra hkept
    exact hout (List.mem_map_of_mem (mem_models_iff.mpr ⟨hm, hkept⟩))

/-- The schemas with an issue are those without a written model. -/
theorem mem_modelIssues_entities_iff {name : String} :
    name ∈ (modelIssues language d).map (·.entity) ↔
      name ∈ d.schemas.keys ∧ name ∉ (models language d).map (·.name) := by
  constructor
  · intro h
    obtain ⟨i, hi, rfl⟩ := List.mem_map.mp h
    refine ⟨?_, fun hwritten => ?_⟩
    · rcases List.mem_append.mp hi with hfailed | hdropped
      · obtain ⟨p, hp, he, -⟩ := mem_modelFailures.mp hfailed
        exact he ▸ List.mem_map_of_mem hp
      · obtain ⟨x, hx, rfl⟩ := List.mem_map.mp hdropped
        obtain ⟨m, hm, he, -⟩ := exists_built_of_dropped hx
        rw [Dropped.issue, ← he]
        exact mem_keys_of_mem_builtModels hm
    · obtain ⟨m, hm, he⟩ := List.mem_map.mp hwritten
      exact modelIssues_ne_name hm hi he.symm
  · rintro ⟨hkey, hout⟩
    obtain ⟨p, hp, rfl⟩ := List.mem_map.mp hkey
    cases h : (buildModel language.naming p.1 p.2).outcome with
    | error problem =>
      have hfailed : ⟨p.1, problem⟩ ∈ failures (modelAttempts language d) :=
        mem_modelFailures.mpr ⟨p, hp, rfl, h⟩
      exact List.mem_map.mpr ⟨_, List.mem_append_left _ hfailed, rfl⟩
    | ok m =>
      have hbuilt : p.1 ∈ (builtModels language d).map (·.name) :=
        List.mem_map.mpr ⟨m, mem_builtModels.mpr ⟨p, hp, h⟩, buildModel_name h⟩
      obtain ⟨x, hx, he⟩ := List.mem_map.mp (mem_dropped_names_iff.mpr ⟨hbuilt, hout⟩)
      exact List.mem_map.mpr ⟨x.issue, List.mem_append_right _ (List.mem_map_of_mem hx), he⟩

theorem nodup_modelIssues_entities (language : Language) (d : Document) :
    ((modelIssues language d).map (·.entity)).Nodup := by
  have hfailed : ((failures (modelAttempts language d)).map (·.entity)).Nodup := by
    rw [modelFailures_eq]
    exact d.schemas.nodup.sublist <|
      map_filterMap_sublist (fun _ _ h => (failure?_eq_some_iff.mp h).1) _
  rw [modelIssues, List.map_append, List.map_map, List.nodup_append']
  refine ⟨hfailed, nodup_dropped_names language d, fun name hfail hdrop => ?_⟩
  obtain ⟨i, hi, rfl⟩ := List.mem_map.mp hfail
  obtain ⟨m, hm, he⟩ := List.mem_map.mp (mem_dropped_names_iff.mp hdrop).1
  exact modelFailures_ne_name hm hi he.symm

theorem filter_modelIssues_eq_singleton {i : Issue} (hi : i ∈ modelIssues language d) :
    (modelIssues language d).filter (·.entity = i.entity) = [i] :=
  filter_eq_singleton_of_nodup_map (nodup_modelIssues_entities language d) hi

/-- A model that is built and not written has one issue, about a model that is not written. -/
theorem filter_modelIssues {m : Model} (hm : m ∈ builtModels language d)
    (hout : m ∉ models language d) :
    ∃ missing ∈ m.references, missing ∉ (models language d).map (·.name) ∧
      (modelIssues language d).filter (·.entity = m.name) =
        [⟨m.name, .unresolvedModel m.name missing⟩] := by
  rw [mem_models_iff, not_and_not_right] at hout
  obtain ⟨x, hx, he⟩ := List.mem_map.mp (hout hm)
  obtain ⟨o, ho, heo, hr, hmissing⟩ := exists_built_of_dropped hx
  obtain rfl : o = m :=
    List.inj_on_of_nodup_map (nodup_builtModels_names language d) ho hm (heo.trans he)
  have hissue : ⟨o.name, .unresolvedModel o.name x.missing⟩ ∈ modelIssues language d :=
    List.mem_append_right _ (List.mem_map.mpr ⟨x, hx, by rw [Dropped.issue, he]⟩)
  exact ⟨x.missing, hr, hmissing, filter_modelIssues_eq_singleton hissue⟩

theorem models_largest_closed (language : Language) (d : Document) :
    IsLargestClosed (builtModels language d) (models language d) ∧
      (∃ n ≤ (builtModels language d).length + 1,
        Sweeps n (builtModels language d) (models language d)
          (closeModels (builtModels language d)).2) ∧
      (∀ m ∈ builtModels language d, m ∉ models language d →
        ∃ missing ∈ m.references, missing ∉ (models language d).map (·.name) ∧
          (modelIssues language d).filter (·.entity = m.name) =
            [⟨m.name, .unresolvedModel m.name missing⟩]) ∧
      ∀ m ∈ models language d, ∀ i ∈ modelIssues language d, i.entity ≠ m.name := by
  obtain ⟨n, hle, h⟩ := closeModels_sweeps (builtModels language d)
  refine ⟨h.isLargestClosed (nodup_builtModels_names language d), ⟨n, hle, h⟩, ?_, ?_⟩
  · intro m hm hout
    exact filter_modelIssues hm hout
  · intro m hm i hi
    exact modelIssues_ne_name hm hi

end ApiStubs.Library
