import ApiStubs.Proofs.Spec.Needs
import Mathlib.Data.List.Forall2

/-! # Routes and their operations

Every path is read as a route of its own, and every key of a path item that is a verb as an
operation. A route has one operation for a verb, so that no operation is lost if and only if no two
keys of a path item are spellings of one verb.
-/

namespace ApiStubs

namespace Spec

variable {spec : Spec} {d : Document} {fields paths : Fields} {shared v : Value} {verb : Verb}

/-- The paths of a specification in order, each with what is written under it. -/
def pathItems (spec : Spec) : Except ReadFailure Fields := do
  let root ← spec.rootFields
  spec.entriesUnder root "paths"

/-- The verbs among the keys of a path item in order, each with what is written under it. -/
def methodEntries (fields : Fields) : List (Verb × Value) :=
  fields.filterMap fun p => (Verb.ofText? p.1.display).map (·, p.2)

/-- The operations that are written under a path, if there is a path item. -/
def methodsOf (spec : Spec) (v : Value) : List (Verb × Value) :=
  match spec.objectFields v with
  | .ok fields => methodEntries fields
  | .error _ => []

/-- An entry of a route that is read from what is written under a verb. -/
structure ReadUnder (spec : Spec) (shared : Value) (w : Verb × Value) (e : Verb × Operation) :
    Prop where
  key : e.1 = w.1
  verb : e.2.verb = w.1
  value : (spec.operation w.1 shared w.2).outcome = .ok e.2

/-- A route under a path that has an operation for every key that is a verb, in order. -/
structure KeptRoute (spec : Spec) (p : Scalar × Value) (r : Route) : Prop where
  path : r.path = p.1.display
  operations : ∃ fields shared, spec.objectFields p.2 = .ok fields ∧
    spec.listField fields "parameters" = .ok shared ∧
      List.Forall₂ (ReadUnder spec shared) (methodEntries fields) r.operations.entries

/-- Whenever a specification can be read, its document has a route for every path in order, with an
operation for every key that is a verb, and so as many operations as there are such keys. -/
def KeepsOperations (spec : Spec) : Prop :=
  ∀ d, spec.document.outcome = .ok d → ∃ paths, spec.pathItems = .ok paths ∧
    List.Forall₂ (KeptRoute spec) paths d.routes ∧
      (d.routes.flatMap (·.operations.entries)).length =
        (paths.flatMap fun p => spec.methodsOf p.2).length

/-- No two keys of a path item are spellings of one verb. -/
def VerbsOnce (spec : Spec) (paths : Fields) : Prop :=
  ∀ p ∈ paths, ∀ fields, spec.objectFields p.2 = .ok fields →
    ((methodEntries fields).map Prod.fst).Nodup

theorem verb_of_operation {o : Operation} (h : (spec.operation verb shared v).outcome = .ok o) :
    o.verb = verb := by
  simp only [outcome_operation, answeredOperation, except_bind_eq_ok] at h
  obtain ⟨_, -, _, -, _, -, _, -, _, -, _, -, _, -, _, -, _, -, _, -, ho⟩ := h
  exact (Except.ok.inj ho) ▸ rfl

theorem operationsOf_eq_ok {operations : List (Verb × Operation)}
    (h : (spec.operationsOf shared fields).outcome = .ok operations) :
    List.Forall₂ (ReadUnder spec shared) (methodEntries fields) operations := by
  induction fields generalizing operations with
  | nil => cases h; exact .nil
  | cons p rest ih =>
    obtain ⟨key, v⟩ := p
    rw [operationsOf] at h
    cases hverb : Verb.ofText? key.display with
    | none =>
      rw [hverb] at h
      simpa [methodEntries, hverb] using ih h
    | some verb =>
      simp only [hverb, Traced.outcome_bind_eq_ok] at h
      obtain ⟨o, ho, others, hrest, hpure⟩ := h
      cases hpure
      have hfirst : ReadUnder spec shared (verb, v) (verb, o) := ⟨rfl, verb_of_operation ho, ho⟩
      simpa [methodEntries, hverb] using List.Forall₂.cons hfirst (ih hrest)

theorem route_eq_ok {path : String} {r : Route} (h : (spec.route path v).outcome = .ok r) :
    r.path = path ∧ ∃ fields shared operations, spec.objectFields v = .ok fields ∧
      spec.listField fields "parameters" = .ok shared ∧
      List.Forall₂ (ReadUnder spec shared) (methodEntries fields) operations ∧
        r.operations = Table.ofList operations := by
  simp only [route, Traced.outcome_bind_eq_ok, Traced.outcome_lift] at h
  obtain ⟨fields, hfields, shared, hshared, operations, hoperations, hpure⟩ := h
  cases hpure
  exact ⟨rfl, fields, shared, operations, hfields, hshared, operationsOf_eq_ok hoperations, rfl⟩

theorem routesOf_eq_ok {routes : List Route} (h : (spec.routesOf paths).outcome = .ok routes) :
    List.Forall₂ (fun p r => (spec.route p.1.display p.2).outcome = .ok r) paths routes := by
  induction paths generalizing routes with
  | nil => cases h; exact .nil
  | cons p rest ih =>
    simp only [routesOf, Traced.outcome_bind_eq_ok] at h
    obtain ⟨r, hr, others, hrest, hpure⟩ := h
    cases hpure
    exact .cons hr (ih hrest)

theorem document_eq_ok (h : spec.document.outcome = .ok d) :
    ∃ paths, spec.pathItems = .ok paths ∧ (spec.routesOf paths).outcome = .ok d.routes := by
  simp only [document, Traced.outcome_bind_eq_ok, Traced.outcome_lift] at h
  obtain ⟨root, hroot, _, -, _, -, _, -, _, -, _, -, _, -, _, -, _, -, _, -, under, hunder, paths,
    hpaths, routes, hroutes, _, -, hpure⟩ := h
  cases hpure
  refine ⟨paths, ?_, hroutes⟩
  rw [pathItems, except_bind_eq_ok]
  exact ⟨root, hroot, except_bind_eq_ok.mpr ⟨under, hunder, hpaths⟩⟩

/-- The keys of the entries are the verbs that are written. -/
theorem keys_of_forall₂ {written : List (Verb × Value)} {entries : List (Verb × Operation)}
    (h : List.Forall₂ (ReadUnder spec shared) written entries) :
    entries.map Prod.fst = written.map Prod.fst := by
  induction h with
  | nil => rfl
  | cons hfirst _ ih => rw [List.map_cons, List.map_cons, hfirst.key, ih]

theorem keptRoute_of_route {p : Scalar × Value} {r : Route}
    (h : (spec.route p.1.display p.2).outcome = .ok r)
    (hn : ∀ fields, spec.objectFields p.2 = .ok fields →
      ((methodEntries fields).map Prod.fst).Nodup) : KeptRoute spec p r := by
  obtain ⟨hpath, fields, shared, operations, hfields, hshared, hread, htable⟩ := route_eq_ok h
  refine ⟨hpath, fields, shared, hfields, hshared, ?_⟩
  have hkeys : (operations.map Prod.fst).Nodup := keys_of_forall₂ hread ▸ hn fields hfields
  rwa [htable, Table.entries_ofList hkeys]

/-- A table has no key twice. -/
theorem KeptRoute.nodup {p : Scalar × Value} {r : Route} (h : KeptRoute spec p r)
    (hfields : spec.objectFields p.2 = .ok fields) :
    ((methodEntries fields).map Prod.fst).Nodup := by
  obtain ⟨fields', shared, hfields', -, hread⟩ := h.operations
  obtain rfl : fields' = fields := Except.ok.inj (hfields'.symm.trans hfields)
  exact keys_of_forall₂ hread ▸ r.operations.nodup

theorem KeptRoute.length_entries {p : Scalar × Value} {r : Route} (h : KeptRoute spec p r) :
    r.operations.entries.length = (spec.methodsOf p.2).length := by
  obtain ⟨fields, shared, hfields, -, hread⟩ := h.operations
  rw [methodsOf, hfields]
  exact hread.length_eq.symm

theorem length_operations {routes : List Route} (h : List.Forall₂ (KeptRoute spec) paths routes) :
    (routes.flatMap (·.operations.entries)).length =
      (paths.flatMap fun p => spec.methodsOf p.2).length := by
  induction h with
  | nil => rfl
  | cons hfirst _ ih =>
    rw [List.flatMap_cons, List.flatMap_cons, List.length_append, List.length_append, ih,
      hfirst.length_entries]

theorem verbsOnce_of_forall₂ {routes : List Route}
    (h : List.Forall₂ (KeptRoute spec) paths routes) : VerbsOnce spec paths := by
  induction h with
  | nil => exact List.forall_mem_nil _
  | cons hfirst _ ih => exact List.forall_mem_cons.mpr ⟨fun _ => hfirst.nodup, ih⟩

theorem forall₂_of_verbsOnce {routes : List Route}
    (h : List.Forall₂ (fun p r => (spec.route p.1.display p.2).outcome = .ok r) paths routes)
    (hn : VerbsOnce spec paths) : List.Forall₂ (KeptRoute spec) paths routes := by
  induction h with
  | nil => exact .nil
  | cons hfirst _ ih =>
    obtain ⟨hn, hrest⟩ := List.forall_mem_cons.mp hn
    exact .cons (keptRoute_of_route hfirst hn) (ih hrest)

/-- No operation of a specification is lost or replaced if and only if it cannot be read or has no
path item with two spellings of one verb. -/
theorem keepsOperations_iff (spec : Spec) : KeepsOperations spec ↔
    ∀ d paths, spec.document.outcome = .ok d → spec.pathItems = .ok paths →
      VerbsOnce spec paths := by
  constructor
  · intro h d paths hd hpaths
    obtain ⟨paths', hpaths', hkept, -⟩ := h d hd
    obtain rfl : paths' = paths := Except.ok.inj (hpaths'.symm.trans hpaths)
    exact verbsOnce_of_forall₂ hkept
  · intro h d hd
    obtain ⟨paths, hpaths, hroutes⟩ := document_eq_ok hd
    have hkept := forall₂_of_verbsOnce (routesOf_eq_ok hroutes) (h d paths hd hpaths)
    exact ⟨paths, hpaths, hkept, length_operations hkept⟩

/-- A path item with a verb in small letters and in capitals. -/
def twoCases : Value :=
  .object [(.text "paths", .object [(.text "/a", .object [
    (.text "get", .object [(.text "summary", .text "first")]),
    (.text "GET", .object [(.text "summary", .text "second")])])])]

/-- In either mode the document has one operation where two are written. -/
theorem not_keepsOperations_twoCases :
    ¬ KeepsOperations { root := twoCases } ∧
      ¬ KeepsOperations { root := twoCases, linkage := .linked } := by
  constructor <;>
  · intro h
    obtain ⟨paths, hpaths, -, hcount⟩ := h _ rfl
    cases hpaths
    exact absurd hcount (by decide +kernel)

end Spec

end ApiStubs
