import ApiStubs.Proofs.Library.Closure
import Mathlib.Data.List.Forall2

/-! # Warnings about schemas

Shapes without a type of their own are warned about where properties, parameters and bodies are
examined. The properties of a schema are examined in order until one of them cannot be a field, and
a model that is left out has a warning of its own.
-/

namespace ApiStubs

/-- A schema inside a document, and what it is called in messages. -/
structure Site where
  name : String
  schema : Schema

/-- What is written when a schema is examined: a warning if its shape has no type of its own. -/
def Site.warnings (s : Site) : List Notice :=
  (s.schema.unmodeled?.map (.unmodeled s.name)).toList

namespace Library

variable {naming : Naming} {language : Language} {plan : Plan} {d : Document} {model path : String}
  {taken : List String} {properties : List (String × Schema)} {o : Operation}

/-- A property of a model, as messages name it. -/
def fieldSite (model : String) (p : String × Schema) : Site :=
  ⟨model ++ "." ++ p.1, p.2⟩

/-- The parameters of an operation and the body of its request. -/
def argumentSites (path : String) (o : Operation) : List Site :=
  (o.parameters.map fun p => ⟨operationLabel o.verb path ++ ": " ++ p.name, p.schema⟩) ++
    (bodySchema o).toList.map fun s => ⟨operationLabel o.verb path ++ ": " ++ bodyArgument, s⟩

/-- What an operation answers on success. -/
def resultSite? (path : String) (o : Operation) : Option Site :=
  (resultSchema o).map fun s => ⟨operationLabel o.verb path ++ ": response", s⟩

/-- The properties that are examined: all up to the first that cannot be a field. -/
def examined (naming : Naming) : List String → List (String × Schema) → List (String × Schema)
  | _, [] => []
  | taken, p :: rest =>
    p :: if taken.contains (naming.identifier p.1) ∨ p.2.type? = none then []
      else examined naming (naming.identifier p.1 :: taken) rest

/-- Everything in a document whose shape is examined while its library is generated. -/
def examinedSites (language : Language) (d : Document) : List Site :=
  (d.schemas.entries.flatMap fun p =>
      (examined language.naming [] p.2.properties).map (fieldSite p.1)) ++
    d.operations.flatMap fun p => argumentSites p.1 p.2

section Building

theorem noteUnmodeled_eq (s : Site) :
    noteUnmodeled s.name s.schema = ⟨s.warnings, .ok ()⟩ := by
  unfold noteUnmodeled Site.warnings
  cases s.schema.unmodeled? <;> rfl

theorem typeOf_eq_ok_iff {context : Option String} {s : Schema} {t : Descriptor} :
    typeOf context s = .ok t ↔ s.type? = some t := by
  unfold typeOf
  cases s.type? <;> simp

theorem typeOf_eq_error_iff {context : Option String} {s : Schema} {e : Problem} :
    typeOf context s = .error e ↔ s.type? = none ∧ e = .missingItems (contextOr context) := by
  unfold typeOf
  cases s.type? <;> simp [eq_comm]

theorem notices_buildFields (naming : Naming) (model : String) (taken : List String)
    (properties : List (String × Schema)) : (buildFields naming model taken properties).notices =
      ((examined naming taken properties).map (fieldSite model)).flatMap Site.warnings := by
  induction properties generalizing taken with
  | nil => rfl
  | cons p rest ih =>
    have hnoted : noteUnmodeled (model ++ "." ++ p.1) p.2 =
        ⟨(fieldSite model p).warnings, .ok ()⟩ := noteUnmodeled_eq (fieldSite model p)
    rw [buildFields, examined, List.map_cons, List.flatMap_cons]
    rw [hnoted, Traced.ok_bind, List.append_cancel_left_eq, Traced.notices_lift_bind, checkField]
    by_cases htaken : taken.contains (naming.identifier p.1) = true
    · rw [if_pos htaken, if_pos (.inl htaken)]
      rfl
    · rw [if_neg htaken]
      dsimp only
      rw [Traced.notices_lift_bind]
      cases htype : p.2.type? with
      | none =>
        rw [typeOf, htype, if_pos (.inr rfl)]
        rfl
      | some t =>
        rw [typeOf_eq_ok_iff.mpr htype, if_neg (not_or.mpr ⟨htaken, by simp⟩), ← ih]
        exact Traced.notices_bind_of_silent _ fun _ => rfl

theorem buildFields_eq_ok {fields : List ModelField}
    (h : (buildFields naming model taken properties).outcome = .ok fields) :
    examined naming taken properties = properties ∧
      List.Forall₂ (fun p f => f.name = p.1 ∧ p.2.type? = some f.type) properties fields := by
  induction properties generalizing taken fields with
  | nil => cases h; exact ⟨rfl, .nil⟩
  | cons p rest ih =>
    rw [buildFields] at h
    simp only [Traced.outcome_bind_eq_ok, Traced.outcome_lift, outcome_noteUnmodeled] at h
    obtain ⟨_, -, _, hcheck, t, htype, others, hrest, hpure⟩ := h
    cases hpure
    obtain ⟨hexamined, hfields⟩ := ih hrest
    have htype := typeOf_eq_ok_iff.mp htype
    have hfree : ¬ taken.contains (naming.identifier p.1) = true := by
      intro htaken
      rw [checkField, if_pos htaken] at hcheck
      cases hcheck
    refine ⟨?_, .cons ⟨rfl, htype⟩ hfields⟩
    rw [examined, if_neg (not_or.mpr ⟨hfree, by simp [htype]⟩), hexamined]

theorem notices_buildModel (naming : Naming) (name : String) (schema : Schema) :
    (buildModel naming name schema).notices =
      ((examined naming [] schema.properties).map (fieldSite name)).flatMap Site.warnings := by
  rw [buildModel, Traced.notices_bind_of_silent _ fun _ => rfl, notices_buildFields]

theorem forIn_noteUnmodeled {α : Type} (site : α → Site) (l : List α) :
    (forIn l PUnit.unit fun a _ => do
      noteUnmodeled (site a).name (site a).schema
      pure (.yield PUnit.unit) : Traced Problem PUnit) =
    ⟨(l.map site).flatMap Site.warnings, .ok ()⟩ := by
  induction l with
  | nil => rfl
  | cons a rest ih =>
    rw [List.forIn_cons, List.map_cons, List.flatMap_cons, noteUnmodeled_eq, Traced.ok_bind]
    simp only [Traced.outcome_pure, Traced.notices_pure, List.append_nil, Traced.ok_bind, ih]

theorem noteArguments_eq (path : String) (o : Operation) :
    noteArguments (operationLabel o.verb path) o =
      ⟨(argumentSites path o).flatMap Site.warnings, .ok ()⟩ := by
  have hloop := forIn_noteUnmodeled
    (fun p : Parameter => ⟨operationLabel o.verb path ++ ": " ++ p.name, p.schema⟩) o.parameters
  rw [noteArguments, hloop, Traced.ok_bind, argumentSites, List.flatMap_append]
  cases bodySchema o with
  | none => rfl
  | some s =>
    have hnoted := noteUnmodeled_eq ⟨operationLabel o.verb path ++ ": " ++ bodyArgument, s⟩
    dsimp only at hnoted ⊢
    rw [hnoted, Option.toList_some, List.map_singleton, List.flatMap_singleton]

theorem notices_buildSignature (naming : Naming) (path : String) (o : Operation) :
    (buildSignature naming path o).notices = (argumentSites path o).flatMap Site.warnings := by
  rw [buildSignature, noteArguments_eq, Traced.ok_bind]
  refine (List.append_right_eq_self.mpr ?_)
  refine Traced.notices_bind_of_silent _ fun arguments => ?_
  refine Traced.notices_bind_of_silent _ fun _ => ?_
  exact Traced.notices_bind_of_silent _ fun _ => rfl

end Building

section Reporting

theorem mem_warnings {s : Site} {n : Notice} :
    n ∈ s.warnings ↔
      ∃ rawType, s.schema.unmodeled? = some rawType ∧ .unmodeled s.name rawType = n := by
  rw [Site.warnings, Option.mem_toList, Option.map_eq_some_iff]

theorem mem_attemptNotices {α : Type} {skipped : String → Problem → Notice}
    {attempts : List (String × Traced Problem α)} {n : Notice} :
    n ∈ attemptNotices skipped attempts ↔ n ∈ attempts.flatMap (·.2.notices) ∨
      ∃ i ∈ failures attempts, skipped i.entity i.problem = n := by
  simp only [attemptNotices, failures_eq, List.mem_flatMap, List.mem_filterMap,
    failure?_eq_some_iff]
  constructor
  · rintro ⟨p, hp, hn⟩
    cases h : p.2.outcome with
    | ok _ =>
      rw [h] at hn
      exact .inl ⟨p, hp, hn⟩
    | error problem =>
      rw [h] at hn
      rcases List.mem_append.mp hn with hn | hn
      · exact .inl ⟨p, hp, hn⟩
      · exact .inr ⟨⟨p.1, problem⟩, ⟨p, hp, rfl, h⟩, (List.mem_singleton.mp hn).symm⟩
  · rintro (⟨p, hp, hn⟩ | ⟨i, ⟨p, hp, he, h⟩, rfl⟩)
    · refine ⟨p, hp, ?_⟩
      split
      · exact hn
      · exact List.mem_append_left _ hn
    · refine ⟨p, hp, ?_⟩
      rw [h, he]
      exact List.mem_append_right _ (List.mem_singleton.mpr rfl)

theorem notices_attempts (language : Language) (d : Document) :
    (modelAttempts language d).flatMap (·.2.notices) ++
        (methodAttempts language d).flatMap (·.2.notices) =
      (examinedSites language d).flatMap Site.warnings := by
  simp only [modelAttempts, methodAttempts_eq, examinedSites, List.flatMap_append, List.flatMap_map,
    List.flatMap_assoc, notices_buildModel, notices_buildSignature]

/-- Shapes are warned about where they are examined, and nowhere else. -/
theorem unmodeled_mem_notices_iff {context rawType : String} :
    .unmodeled context rawType ∈ notices plan d ↔
      ∃ s ∈ examinedSites plan.language d,
        s.name = context ∧ s.schema.unmodeled? = some rawType := by
  have hwarned :
      .unmodeled context rawType ∈ (examinedSites plan.language d).flatMap Site.warnings ↔
        ∃ s ∈ examinedSites plan.language d,
          s.name = context ∧ s.schema.unmodeled? = some rawType := by
    simp [mem_warnings, and_comm]
  rw [← hwarned, ← notices_attempts, List.mem_append]
  simp [notices, mem_attemptNotices]

/-- A model has a warning that it is left out exactly if it has an issue, with the same problem. -/
theorem modelSkipped_mem_notices_iff {name : String} {problem : Problem} :
    .modelSkipped name problem ∈ notices plan d ↔
      ⟨name, problem⟩ ∈ modelIssues plan.language d := by
  have hsites :
      .modelSkipped name problem ∉ (examinedSites plan.language d).flatMap Site.warnings := by
    simp [mem_warnings]
  rw [← notices_attempts, List.mem_append, not_or] at hsites
  simp only [notices, modelIssues, mem_attemptNotices, hsites, List.mem_append, List.mem_map,
    List.mem_cons, List.not_mem_nil, Notice.modelSkipped.injEq, reduceCtorEq, false_or, or_false,
    and_false, exists_false]
  constructor
  · rintro (⟨i, hi, rfl, rfl⟩ | ⟨x, hx, rfl, rfl⟩)
    · exact .inl hi
    · exact .inr ⟨x, hx, rfl⟩
  · rintro (hi | ⟨x, hx, he⟩)
    · exact .inl ⟨_, hi, rfl, rfl⟩
    · exact .inr ⟨x, hx, congrArg Issue.entity he, congrArg Issue.problem he⟩

end Reporting

end Library

end ApiStubs
