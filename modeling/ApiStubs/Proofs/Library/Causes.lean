import ApiStubs.Proofs.Library.Distinct
import ApiStubs.Proofs.Library.References

/-! # Causes of missing models

A model is dropped for one that is not left. So the blame goes to a name without a schema, or to a
schema that was reported before, and followed from issue to issue it ends at a name without a schema
or at a schema of which no model could be built.
-/

namespace ApiStubs.Library

/-- Drops in order from models with some names, each for a name that is not left. -/
inductive Drops : List String → List Dropped → Prop where
  | nil {present : List String} : Drops present []
  | cons {present : List String} {x : Dropped} {rest : List Dropped} :
      x.missing ∉ present → Drops (present.filter (· ≠ x.name)) rest → Drops present (x :: rest)

/-- What refers to a model, in the issue at a position: a model if it is one of the issues of
schemas, which come first, and a method if it is not. -/
inductive Refers (language : Language) (d : Document) : ℕ → String → String → Prop where
  | model {i : ℕ} {m : Model} {missing : String} : i < (modelIssues language d).length →
      m ∈ builtModels language d → missing ∈ m.references → Refers language d i m.name missing
  | method {i : ℕ} {s : Signature} {missing : String} : (modelIssues language d).length ≤ i →
      s ∈ builtSignatures language d → missing ∈ s.references →
      Refers language d i s.label missing

/-- Names from which the blame, followed through the only issue of each, comes to its cause. -/
inductive EndsAtCause (language : Language) (d : Document) : String → Prop where
  | undefined {name : String} : name ∉ d.schemas.keys → EndsAtCause language d name
  | failed {name : String} {problem : Problem} :
      (modelIssues language d).filter (·.entity = name) = [⟨name, problem⟩] →
      ((∃ context, problem = .missingItems context) ∨
        ∃ field, problem = .fieldNameCollision name field) →
      EndsAtCause language d name
  | dropped {name missing : String} :
      (modelIssues language d).filter (·.entity = name) =
        [⟨name, .unresolvedModel name missing⟩] →
      EndsAtCause language d missing → EndsAtCause language d name

/-- The blame for a missing model in the issue of an entity at a position of a library: the model is
referred to and not written, and either it has no schema or the issue of its schema comes before. -/
structure Blames (plan : Plan) (d : Document) (i : ℕ) (entity missing : String) : Prop where
  refers : Refers plan.language d i entity missing
  absent : missing ∉ (models plan.language d).map (·.name)
  before : missing ∉ d.schemas.keys ∨ ∃ j < i, ∃ x, (generate plan d).issues[j]? = some x ∧
    (modelIssues plan.language d).filter (·.entity = missing) = [x]
  ends : EndsAtCause plan.language d missing

variable {language : Language} {plan : Plan} {d : Document} {i : ℕ} {name missing : String}

theorem exists_before_of_mem {α : Type} {l l' : List α} {x : α} (hx : x ∈ l) (hi : l.length ≤ i) :
    ∃ j < i, (l ++ l')[j]? = some x := by
  obtain ⟨j, hj⟩ := List.mem_iff_getElem?.mp hx
  have hlt : j < l.length := (List.getElem?_eq_some_iff.mp hj).1
  exact ⟨j, Nat.lt_of_lt_of_le hlt hi, by rw [List.getElem?_append_left hlt, hj]⟩

section Order

variable {present : List String} {first later dropped : List Dropped} {start final : List Model}

theorem Drops.append (h : Drops present first)
    (h' : Drops (present.filter (· ∉ first.map (·.name))) later) :
    Drops present (first ++ later) := by
  induction h with
  | nil => simpa using h'
  | @cons present x rest hx _ ih =>
    refine .cons hx (ih ?_)
    rw [List.filter_filter]
    simpa [not_or, Bool.and_comm] using h'

theorem drops_sweep (rest present : List Model) :
    Drops (present.map (·.name)) (sweep rest present).2 := by
  induction rest generalizing present with
  | nil => exact .nil
  | cons m rest ih =>
    cases hm : firstMissing present m.references with
    | none => simpa only [sweep, hm] using ih present
    | some missing =>
      simp only [sweep, hm]
      refine .cons (mem_of_firstMissing_eq_some hm).2 ?_
      rw [List.filter_map]
      exact ih (present.filter (·.name ≠ m.name))

theorem Sweeps.drops {n : ℕ} (h : Sweeps n start final dropped) :
    Drops (start.map (·.name)) dropped := by
  induction h with
  | last => exact .nil
  | @more _ start _ _ _ _ ih =>
    refine (drops_sweep start start).append ?_
    rw [List.filter_map]
    rwa [sweep_fst] at ih

/-- The name that a drop is blamed on was never there, or was dropped before. -/
theorem Drops.missing_dropped (h : Drops present dropped) {k : ℕ} {x : Dropped}
    (hk : dropped[k]? = some x) :
    x.missing ∉ present ∨ ∃ j < k, ∃ y, dropped[j]? = some y ∧ y.name = x.missing := by
  induction h generalizing k with
  | nil => simp at hk
  | @cons present first rest hx _ ih =>
    cases k with
    | zero =>
      obtain rfl : first = x := by simpa using hk
      exact .inl hx
    | succ k =>
      rw [List.getElem?_cons_succ] at hk
      rcases ih hk with hout | ⟨j, hj, y, hy, he⟩
      · by_cases he : x.missing = first.name
        · exact .inr ⟨0, k.succ_pos, first, rfl, he.symm⟩
        · exact .inl fun hin => hout (List.mem_filter.mpr ⟨hin, by simpa using he⟩)
      · exact .inr ⟨j + 1, by omega, y, by rwa [List.getElem?_cons_succ], he⟩

end Order

section Schemas

theorem exists_modelIssue_of_absent (hkey : name ∈ d.schemas.keys)
    (hout : name ∉ (models language d).map (·.name)) :
    ∃ x ∈ modelIssues language d, x.entity = name :=
  List.mem_map.mp (mem_modelIssues_entities_iff.mpr ⟨hkey, hout⟩)

/-- An issue of a schema about a missing model is the issue of a drop. -/
theorem exists_dropped_of_getElem? {entity owner : String}
    (h : (modelIssues language d)[i]? = some ⟨entity, .unresolvedModel owner missing⟩) :
    ∃ k, i = (failures (modelAttempts language d)).length + k ∧ owner = entity ∧
      (closeModels (builtModels language d)).2[k]? = some ⟨entity, missing⟩ := by
  rw [modelIssues, List.getElem?_append] at h
  split at h
  · rcases modelFailure_problem (List.mem_of_getElem? h) with ⟨_, hp⟩ | ⟨_, hp⟩ <;> cases hp
  · next hle =>
    rw [List.getElem?_map, Option.map_eq_some_iff] at h
    obtain ⟨x, hx, he⟩ := h
    simp only [Dropped.issue, Issue.mk.injEq, Problem.unresolvedModel.injEq] at he
    obtain ⟨rfl, rfl, rfl⟩ := he
    exact ⟨_, by omega, rfl, hx⟩

theorem before_of_unresolved {entity owner : String}
    (h : (modelIssues language d)[i]? = some ⟨entity, .unresolvedModel owner missing⟩) :
    missing ∉ d.schemas.keys ∨
      ∃ j < i, ∃ x, (modelIssues language d)[j]? = some x ∧ x.entity = missing := by
  obtain ⟨k, rfl, -, hk⟩ := exists_dropped_of_getElem? h
  obtain ⟨_, _, hs⟩ := closeModels_sweeps (builtModels language d)
  rcases hs.drops.missing_dropped hk with hbuilt | ⟨j, hj, y, hy, he⟩
  · refine or_iff_not_imp_left.mpr fun hkey => ?_
    -- the schema is there and has no model that was built, so its attempt failed
    have hout : missing ∉ (models language d).map (·.name) :=
      fun h => hbuilt (((models_sublist language d).map _).subset h)
    obtain ⟨x, hx, he⟩ := exists_modelIssue_of_absent (not_not.mp hkey) hout
    rcases List.mem_append.mp hx with hfailed | hdropped
    · obtain ⟨j, hj, hget⟩ := exists_before_of_mem hfailed (Nat.le_add_right _ k)
      exact ⟨j, hj, x, hget, he⟩
    · obtain ⟨y, hy, rfl⟩ := List.mem_map.mp hdropped
      rw [← he] at hbuilt
      exact absurd (mem_dropped_names_iff.mp (List.mem_map_of_mem hy)).1 hbuilt
  · refine .inr ⟨(failures (modelAttempts language d)).length + j, by omega, y.issue, ?_, he⟩
    rw [modelIssues, List.getElem?_append_right (by omega), List.getElem?_map,
      Nat.add_sub_cancel_left, hy, Option.map_some]

theorem refers_of_unresolved {entity owner : String}
    (h : (modelIssues language d)[i]? = some ⟨entity, .unresolvedModel owner missing⟩) :
    owner = entity ∧ Refers language d i entity missing ∧
      missing ∉ (models language d).map (·.name) := by
  obtain ⟨k, -, howner, hk⟩ := exists_dropped_of_getElem? h
  obtain ⟨m, hm, rfl, hr, hout⟩ := exists_built_of_dropped (List.mem_of_getElem? hk)
  exact ⟨howner, .model (List.getElem?_eq_some_iff.mp h).1 hm hr, hout⟩

theorem endsAtCause_of_getElem? {x : Issue} (h : (modelIssues language d)[i]? = some x) :
    EndsAtCause language d x.entity := by
  induction i using Nat.strongRecOn generalizing x with
  | ind i ih =>
    have hmem := List.mem_of_getElem? h
    have hone := filter_modelIssues_eq_singleton hmem
    rcases List.mem_append.mp hmem with hfailed | hdropped
    · exact .failed hone (modelFailure_problem hfailed)
    · obtain ⟨y, -, rfl⟩ := List.mem_map.mp hdropped
      refine .dropped hone ?_
      rcases before_of_unresolved h with hkey | ⟨j, hj, z, hz, he⟩
      · exact .undefined hkey
      · exact he ▸ ih j hj hz

theorem endsAtCause_of_absent (hout : name ∉ (models language d).map (·.name)) :
    EndsAtCause language d name := by
  by_cases hkey : name ∈ d.schemas.keys
  · obtain ⟨x, hx, rfl⟩ := exists_modelIssue_of_absent hkey hout
    obtain ⟨_, hi⟩ := List.mem_iff_getElem?.mp hx
    exact endsAtCause_of_getElem? hi
  · exact .undefined hkey

end Schemas

section Operations

theorem mem_unresolvedIssues_of_mem {x : Issue} {owner : String} (hx : x ∈ methodIssues language d)
    (hp : x.problem = .unresolvedModel owner missing) :
    x ∈ unresolvedIssues (models language d) (distinctMethods (builtSignatures language d)) := by
  simp only [methodIssues, List.mem_append] at hx
  rcases hx with (hfailed | hshared) | hunresolved
  · rcases methodFailure_problem hfailed with ⟨_, h⟩ | ⟨_, h⟩ <;> simp [h] at hp
  · obtain ⟨_, -, rfl⟩ := List.mem_map.mp hshared
    cases hp
  · exact hunresolved

theorem exists_signature_of_unresolved {entity owner : String}
    (h : ⟨entity, .unresolvedModel owner missing⟩ ∈ methodIssues language d) :
    owner = entity ∧ ∃ s ∈ builtSignatures language d, s.label = entity ∧
      missing ∈ s.references ∧ missing ∉ (models language d).map (·.name) := by
  obtain ⟨s, hs, hm⟩ := List.mem_filterMap.mp (mem_unresolvedIssues_of_mem h rfl)
  obtain ⟨r, hr, he⟩ := Option.map_eq_some_iff.mp hm
  simp only [Issue.mk.injEq, Problem.unresolvedModel.injEq] at he
  obtain ⟨rfl, rfl, rfl⟩ := he
  exact ⟨rfl, s, List.mem_of_mem_filter hs, rfl, mem_of_firstMissing_eq_some hr⟩

end Operations

theorem blames_of_unresolved (plan : Plan) (d : Document) {i : ℕ} {entity owner missing : String}
    (h : (generate plan d).issues[i]? = some ⟨entity, .unresolvedModel owner missing⟩) :
    owner = entity ∧ Blames plan d i entity missing := by
  rw [generate, List.getElem?_append] at h
  split at h
  · next hlt =>
    obtain ⟨howner, hrefers, hout⟩ := refers_of_unresolved h
    refine ⟨howner, hrefers, hout, ?_, endsAtCause_of_absent hout⟩
    refine (before_of_unresolved h).imp_right ?_
    rintro ⟨j, hj, x, hx, rfl⟩
    refine ⟨j, hj, x, ?_, filter_modelIssues_eq_singleton (List.mem_of_getElem? hx)⟩
    rw [generate, List.getElem?_append_left (Nat.lt_trans hj hlt), hx]
  · next hge =>
    obtain ⟨howner, s, hs, rfl, hr, hout⟩ := exists_signature_of_unresolved (List.mem_of_getElem? h)
    have hle := Nat.le_of_not_lt hge
    refine ⟨howner, .method hle hs hr, hout, ?_, endsAtCause_of_absent hout⟩
    refine or_iff_not_imp_left.mpr fun hkey => ?_
    obtain ⟨x, hx, rfl⟩ := exists_modelIssue_of_absent (not_not.mp hkey) hout
    obtain ⟨j, hj, hget⟩ := exists_before_of_mem hx hle
    exact ⟨j, hj, x, hget, filter_modelIssues_eq_singleton hx⟩

/-- A call for an order of baskets, where the parts of an item are an array of nothing. -/
def brokenChain : Document where
  schemas := Table.ofList
    [("Order", holderOf ["Basket"]), ("Basket", holderOf ["Item"]),
     ("Item", { kind := .object, properties := [("parts", { kind := .array })] })]
  routes :=
    [{ path := "/order", operations := Table.ofList [(.get, {
        verb := .get
        responses := Table.ofList
          [("200", Table.ofList [("application/json", referenceTo "Order")])] })] }]

theorem blames_brokenChain :
    (generate { language := .python } brokenChain).issues[3]? =
        some ⟨"GET /order", .unresolvedModel "GET /order" "Order"⟩ ∧
      Blames { language := .python } brokenChain 3 "GET /order" "Order" := by
  have h : (generate { language := .python } brokenChain).issues[3]? =
      some ⟨"GET /order", .unresolvedModel "GET /order" "Order"⟩ := by decide +kernel
  exact ⟨h, (blames_of_unresolved _ _ h).2⟩

end ApiStubs.Library
