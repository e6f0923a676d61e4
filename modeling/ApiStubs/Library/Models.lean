import ApiStubs.Signature
import ApiStubs.Target.Naming
import ApiStubs.Traced

/-!
# Models of a document

A model is built from a schema property by property. It is refused when two properties get one
identifier or when a property has no type. A model that refers to one that is not there is dropped,
and with it, in turn, whatever refers to the dropped one.
-/

namespace ApiStubs

namespace Library

/-- Says that a schema has a shape without a type of its own. -/
def noteUnmodeled (context : String) (s : Schema) : Traced Problem Unit :=
  match s.unmodeled? with
  | some rawType => Traced.note (.unmodeled context rawType)
  | none => pure ()

@[simp] theorem outcome_noteUnmodeled (context : String) (s : Schema) :
    (noteUnmodeled context s).outcome = .ok () := by
  unfold noteUnmodeled
  split <;> rfl

/-- The type of a schema, or the problem with it. -/
def typeOf (context : Option String) (s : Schema) : Except Problem Descriptor :=
  match s.type? with
  | some d => .ok d
  | none => .error (.missingItems (contextOr context))

theorem typeOf_error {context : Option String} {s : Schema} {e : Problem}
    (h : typeOf context s = .error e) : e = .missingItems (contextOr context) := by
  unfold typeOf at h
  split at h
  · cases h
  · exact (Except.error.inj h).symm

/-- Refuses a property of a model when its identifier is taken. -/
def checkField (naming : Naming) (model : String) (taken : List String) (property : String) :
    Except Problem Unit :=
  if taken.contains (naming.identifier property) then
    .error (.fieldNameCollision model (naming.identifier property))
  else .ok ()

/-- The fields for the properties of a model, next to the identifiers that are taken. -/
def buildFields (naming : Naming) (model : String) :
    List String → List (String × Schema) → Traced Problem (List ModelField)
  | _, [] => pure []
  | taken, (property, schema) :: rest => do
    let context := model ++ "." ++ property
    noteUnmodeled context schema
    checkField naming model taken property
    let type ← typeOf (some context) schema
    let fields ← buildFields naming model (naming.identifier property :: taken) rest
    pure (⟨property, type⟩ :: fields)

theorem buildFields_error {naming : Naming} {model : String} {taken : List String}
    {properties : List (String × Schema)} {e : Problem}
    (h : (buildFields naming model taken properties).outcome = .error e) :
    (∃ context, e = .missingItems context) ∨ ∃ field, e = .fieldNameCollision model field := by
  induction properties generalizing taken with
  | nil => cases h
  | cons p rest ih =>
    rw [buildFields] at h
    simp only [Traced.outcome_bind_eq_error, Traced.outcome_lift, Traced.outcome_pure,
      outcome_noteUnmodeled, reduceCtorEq, false_or, or_false, true_and, exists_const,
      and_false] at h
    rcases h with hcheck | ⟨_, _, htype | ⟨_, _, hrest⟩⟩
    · unfold checkField at hcheck
      split at hcheck
      · exact .inr ⟨_, (Except.error.inj hcheck).symm⟩
      · cases hcheck
    · exact .inl ⟨_, typeOf_error htype⟩
    · exact ih hrest

/-- The model of a schema. -/
def buildModel (naming : Naming) (name : String) (schema : Schema) : Traced Problem Model := do
  let fields ← buildFields naming name [] schema.properties
  pure ⟨name, fields⟩

theorem buildModel_name {naming : Naming} {name : String} {schema : Schema} {m : Model}
    (h : (buildModel naming name schema).outcome = .ok m) : m.name = name := by
  obtain ⟨fields, _, hm⟩ := Traced.outcome_bind_eq_ok.mp h
  cases hm
  rfl

theorem buildModel_error {naming : Naming} {name : String} {schema : Schema} {e : Problem}
    (h : (buildModel naming name schema).outcome = .error e) :
    (∃ context, e = .missingItems context) ∨ ∃ field, e = .fieldNameCollision name field := by
  rcases Traced.outcome_bind_eq_error.mp h with hfields | ⟨_, _, hpure⟩
  · exact buildFields_error hfields
  · cases hpure

/-- The first model that some references need and that is not present. -/
def firstMissing (present : List Model) (references : List String) : Option String :=
  references.find? fun r => !present.any (·.name == r)

theorem firstMissing_eq_none_iff {present : List Model} {references : List String} :
    firstMissing present references = none ↔ ∀ r ∈ references, r ∈ present.map (·.name) := by
  simp [firstMissing, List.find?_eq_none]

theorem mem_of_firstMissing_eq_some {present : List Model} {references : List String} {r : String}
    (h : firstMissing present references = some r) :
    r ∈ references ∧ r ∉ present.map (·.name) := by
  have hp := List.find?_some h
  exact ⟨List.mem_of_find?_eq_some h, by simpa using hp⟩

/-- A model that was dropped, and the missing one it refers to. -/
structure Dropped where
  name : String
  missing : String
deriving DecidableEq, Repr, Inhabited

/-- Goes once through the given models and drops those that refer to a model no longer present. -/
def sweep : List Model → List Model → List Model × List Dropped
  | [], present => (present, [])
  | m :: rest, present =>
    match firstMissing present m.references with
    | none => sweep rest present
    | some missing =>
      let (kept, dropped) := sweep rest (present.filter (·.name ≠ m.name))
      (kept, ⟨m.name, missing⟩ :: dropped)

theorem sweep_fst (rest present : List Model) :
    (sweep rest present).1 =
      present.filter fun m => m.name ∉ (sweep rest present).2.map (·.name) := by
  induction rest generalizing present with
  | nil => exact (List.filter_eq_self.mpr (by simp [sweep])).symm
  | cons m rest ih =>
    cases h : firstMissing present m.references with
    | none => simpa only [sweep, h] using ih present
    | some missing =>
      simp only [sweep, h, List.map_cons, List.mem_cons, not_or]
      rw [ih, List.filter_filter]
      exact List.filter_congr fun o _ => by simp [Bool.and_comm]

theorem sweep_dropped_sublist (rest present : List Model) :
    ((sweep rest present).2.map (·.name)).Sublist (rest.map (·.name)) := by
  induction rest generalizing present with
  | nil => simp [sweep]
  | cons m rest ih =>
    cases h : firstMissing present m.references with
    | none => simpa only [sweep, h, List.map_cons] using (ih present).cons m.name
    | some missing => simpa only [sweep, h, List.map_cons] using (ih _).cons_cons m.name

theorem length_sweep_lt {models : List Model} (h : (sweep models models).2 ≠ []) :
    (sweep models models).1.length < models.length := by
  obtain ⟨d, hd⟩ := List.exists_mem_of_ne_nil _ h
  have hn := (sweep_dropped_sublist models models).subset (List.mem_map_of_mem hd)
  obtain ⟨m, hm, he⟩ := List.mem_map.mp hn
  rw [sweep_fst, List.length_filter_lt_length_iff_exists]
  exact ⟨m, hm, by simpa [he] using ⟨d, hd, rfl⟩⟩

/-- Sweeps until nothing is dropped: the models that are left, and the dropped ones in order. -/
def closeModels (models : List Model) : List Model × List Dropped :=
  let round := sweep models models
  if _h : round.2 = [] then round
  else
    let final := closeModels round.1
    (final.1, round.2 ++ final.2)
termination_by models.length
decreasing_by exact length_sweep_lt _h

def Dropped.issue (d : Dropped) : Issue :=
  ⟨d.name, .unresolvedModel d.name d.missing⟩

end Library

end ApiStubs
