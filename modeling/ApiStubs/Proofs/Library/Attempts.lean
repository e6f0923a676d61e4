import Mathlib.Data.List.Nodup
import ApiStubs.Library.Generation

/-! # Attempts entry by entry

Every schema and every operation is tried on its own. What is built and what fails is read off the
entries of the document in their order, and no two built models share a name.
-/

namespace ApiStubs

/-- The operations of a document in order, each with the path of its route. -/
def Document.operations (d : Document) : List (String × Operation) :=
  d.routes.flatMap fun route => route.operations.entries.map fun p => (route.path, p.2)

namespace Library

variable {language : Language} {d : Document}

section Lists

variable {α β γ : Type*}

theorem map_filterMap_sublist {f : α → Option β} {g : β → γ} {k : α → γ}
    (h : ∀ x y, f x = some y → g y = k x) (l : List α) :
    ((l.filterMap f).map g).Sublist (l.map k) := by
  induction l with
  | nil => exact .slnil
  | cons x l ih =>
    cases hx : f x with
    | none => simpa [hx] using ih.cons (k x)
    | some y => simpa [hx, h x y hx] using ih

theorem filter_eq_singleton_of_nodup_map [DecidableEq β] {f : α → β} {l : List α} {x : α}
    (hn : (l.map f).Nodup) (hx : x ∈ l) : (l.filter fun y => f y = f x) = [x] := by
  induction l with
  | nil => cases hx
  | cons y l ih =>
    obtain ⟨hy, hl⟩ := List.nodup_cons.mp hn
    rcases List.mem_cons.mp hx with rfl | hx
    · have hnone : (l.filter fun y => f y = f x) = [] :=
        List.filter_eq_nil_iff.mpr fun z hz => by
          simpa using fun he : f z = f x => hy (he ▸ List.mem_map_of_mem hz)
      simp [hnone]
    · have hne : f y ≠ f x := fun he => hy (he ▸ List.mem_map_of_mem hx)
      simp [hne, ih hl hx]

theorem perm_filterMap_or {f g : α → Option β} {l : List α}
    (h : ∀ x ∈ l, f x = none ∨ g x = none) :
    (l.filterMap fun x => (f x).or (g x)).Perm (l.filterMap f ++ l.filterMap g) := by
  induction l with
  | nil => exact .refl _
  | cons x l ih =>
    have ih' := ih fun y hy => h y (List.mem_cons_of_mem x hy)
    rcases h x List.mem_cons_self with hf | hg
    · cases hx : g x with
      | none => simpa [hf, hx] using ih'
      | some b => simpa [hf, hx] using (ih'.cons b).trans List.perm_middle.symm
    · cases hx : f x with
      | none => simpa [hg, hx] using ih'
      | some b => simpa [hg, hx] using ih'.cons b

theorem perm_filterMap_find? [DecidableEq γ] {key : β → γ} {l : List β} {keys : List γ}
    (hk : keys.Nodup) (hl : (l.map key).Nodup) (hs : l.map key ⊆ keys) :
    (keys.filterMap fun k => l.find? (key · = k)).Perm l := by
  refine (List.perm_ext_iff_of_nodup (hk.filterMap fun a b x ha hb => ?_) (.of_map _ hl)).mpr
    fun x => ?_
  · have ha' : key x = a := by simpa using List.find?_some ha
    have hb' : key x = b := by simpa using List.find?_some hb
    exact ha'.symm.trans hb'
  · rw [List.mem_filterMap]
    constructor
    · rintro ⟨k, _, hx⟩; exact List.mem_of_find?_eq_some hx
    · intro hx
      refine ⟨key x, hs (List.mem_map_of_mem hx), ?_⟩
      obtain ⟨y, hy⟩ : ∃ y, l.find? (key · = key x) = some y :=
        Option.isSome_iff_exists.mp (List.find?_isSome.mpr ⟨x, hx, by simp⟩)
      have hkey : key y = key x := by simpa using List.find?_some hy
      rw [hy, List.inj_on_of_nodup_map hl (List.mem_of_find?_eq_some hy) hx hkey]

end Lists

theorem toOption_eq_some_iff {ε α : Type} {x : Except ε α} {a : α} :
    x.toOption = some a ↔ x = .ok a := by
  cases x <;> simp [Except.toOption]

/-- The issue of an attempt, if it failed. -/
def failure? {α : Type} (entity : String) : Except Problem α → Option Issue
  | .ok _ => none
  | .error problem => some ⟨entity, problem⟩

theorem failure?_eq_some_iff {α : Type} {entity : String} {x : Except Problem α} {i : Issue} :
    failure? entity x = some i ↔ i.entity = entity ∧ x = .error i.problem := by
  cases x with
  | ok a => simp [failure?]
  | error e =>
    simp only [failure?, Option.some.injEq, Except.error.injEq]
    constructor
    · rintro rfl; exact ⟨rfl, rfl⟩
    · rintro ⟨rfl, rfl⟩; rfl

theorem failures_eq {α : Type} (attempts : List (String × Traced Problem α)) :
    failures attempts = attempts.filterMap fun p => failure? p.1 p.2.outcome :=
  List.filterMap_congr fun p _ => by cases h : p.2.outcome <;> simp [failure?]

theorem builtModels_eq (language : Language) (d : Document) :
    builtModels language d = d.schemas.entries.filterMap fun p =>
      (buildModel language.naming p.1 p.2).outcome.toOption := by
  simp [builtModels, successes, modelAttempts, List.filterMap_map]

theorem modelFailures_eq (language : Language) (d : Document) :
    failures (modelAttempts language d) = d.schemas.entries.filterMap fun p =>
      failure? p.1 (buildModel language.naming p.1 p.2).outcome := by
  simp [failures_eq, modelAttempts, List.filterMap_map]

theorem methodAttempts_eq (language : Language) (d : Document) :
    methodAttempts language d = d.operations.map fun p =>
      (operationLabel p.2.verb p.1, buildSignature language.naming p.1 p.2) := by
  simp [methodAttempts, Document.operations, List.map_flatMap, Function.comp_def]

theorem builtSignatures_eq (language : Language) (d : Document) :
    builtSignatures language d = d.operations.filterMap fun p =>
      (buildSignature language.naming p.1 p.2).outcome.toOption := by
  simp [builtSignatures, successes, methodAttempts_eq, List.filterMap_map]

theorem methodFailures_eq (language : Language) (d : Document) :
    failures (methodAttempts language d) = d.operations.filterMap fun p =>
      failure? (operationLabel p.2.verb p.1)
        (buildSignature language.naming p.1 p.2).outcome := by
  simp [failures_eq, methodAttempts_eq, List.filterMap_map]

theorem mem_builtModels {m : Model} :
    m ∈ builtModels language d ↔ ∃ p ∈ d.schemas.entries,
      (buildModel language.naming p.1 p.2).outcome = .ok m := by
  simp only [builtModels_eq, List.mem_filterMap, toOption_eq_some_iff]

theorem mem_builtSignatures {s : Signature} :
    s ∈ builtSignatures language d ↔ ∃ p ∈ d.operations,
      (buildSignature language.naming p.1 p.2).outcome = .ok s := by
  simp only [builtSignatures_eq, List.mem_filterMap, toOption_eq_some_iff]

theorem mem_modelFailures {i : Issue} :
    i ∈ failures (modelAttempts language d) ↔ ∃ p ∈ d.schemas.entries,
      i.entity = p.1 ∧ (buildModel language.naming p.1 p.2).outcome = .error i.problem := by
  simp only [modelFailures_eq, List.mem_filterMap, failure?_eq_some_iff]

theorem mem_methodFailures {i : Issue} :
    i ∈ failures (methodAttempts language d) ↔ ∃ p ∈ d.operations,
      i.entity = operationLabel p.2.verb p.1 ∧
        (buildSignature language.naming p.1 p.2).outcome = .error i.problem := by
  simp only [methodFailures_eq, List.mem_filterMap, failure?_eq_some_iff]

theorem modelFailure_problem {i : Issue} (hi : i ∈ failures (modelAttempts language d)) :
    (∃ context, i.problem = .missingItems context) ∨
      ∃ field, i.problem = .fieldNameCollision i.entity field := by
  obtain ⟨p, -, he, herr⟩ := mem_modelFailures.mp hi
  exact he ▸ buildModel_error herr

theorem methodFailure_problem {i : Issue} (hi : i ∈ failures (methodAttempts language d)) :
    (∃ context, i.problem = .missingItems context) ∨
      ∃ parameter, i.problem = .parameterNameCollision i.entity parameter := by
  obtain ⟨p, -, he, herr⟩ := mem_methodFailures.mp hi
  exact he ▸ buildSignature_error herr

theorem nodup_builtModels_names (language : Language) (d : Document) :
    ((builtModels language d).map (·.name)).Nodup := by
  rw [builtModels_eq]
  exact d.schemas.nodup.sublist <|
    map_filterMap_sublist (fun _ _ h => buildModel_name (toOption_eq_some_iff.mp h)) _

/-- A model that is built has the only entry under its name to itself. -/
theorem modelFailures_ne_name {m : Model} (hm : m ∈ builtModels language d) {i : Issue}
    (hi : i ∈ failures (modelAttempts language d)) : i.entity ≠ m.name := by
  obtain ⟨p, hp, hok⟩ := mem_builtModels.mp hm
  obtain ⟨q, hq, he, herr⟩ := mem_modelFailures.mp hi
  intro h
  have hpq : p = q := List.inj_on_of_nodup_map d.schemas.nodup hp hq
    ((buildModel_name hok).symm.trans (h.symm.trans he))
  subst hpq
  simp [hok] at herr

end Library

end ApiStubs
