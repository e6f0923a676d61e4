import ApiStubs.Proofs.Command.Reporting
import ApiStubs.Proofs.Spec.Escapes

/-! # The first fault of a specification

Reading a document ends with the first thing that it needs and does not find. Only the faults of a
specification as a whole and of its local references are reported; every other one escapes.
-/

namespace ApiStubs

namespace Spec

variable {spec : Spec} {fields : Fields} {v : Value} {e : ReadFailure}

/-- A computation ends as the needs of a part of the specification do. -/
abbrev Settled {α : Type} (spec : Spec) (ds : List Need) (x : Except ReadFailure α) : Prop :=
  Settles (Holds spec) (Ends spec) ds x

section Parts

variable (spec)

theorem settled_displayField (fields : Fields) (name default : String) :
    Settled spec (needAt .shown fields name) (spec.displayField fields name default) := by
  unfold needAt displayField
  cases Fields.get? fields name with
  | none => exact .pure _
  | some v => exact .leaf (judges_holds spec) rfl rfl

theorem settled_parameterOf? (fields : Fields) :
    Settled spec (Need.ofParameter fields) (spec.parameterOf? fields) := by
  unfold Need.ofParameter parameterOf?
  cases Fields.get? fields "name" with
  | none => exact .pure _
  | some name =>
    rw [Option.toList_some, List.flatMap_singleton]
    refine Settles.bind (.leaf (d := .shown name) (judges_holds spec) rfl rfl) fun name _ => ?_
    refine (settled_displayField spec fields "in" "query").bind fun location _ => ?_
    unfold needAt
    cases Fields.get? fields "schema" with
    | none => exact .pure _
    | some v => exact (settles_schema spec v).map _

theorem settled_parameter? (v : Value) :
    Settled spec [.parameter v] (spec.parameter? v).outcome := by
  rw [outcome_parameter?]
  refine Settles.whole rfl (.next (judges_holds spec) rfl rfl fun o _ => ?_)
  cases o with
  | none => exact .pure _
  | some fields =>
    rw [Option.toList_some, List.flatMap_singleton]
    exact settled_parameterOf? spec fields

theorem settled_parametersOf (values : List Value) :
    Settled spec (values.map .parameter) (spec.parametersOf values).outcome := by
  induction values with
  | nil => exact .pure _
  | cons v rest ih =>
    simp only [parametersOf, Traced.outcome_bind]
    refine (settled_parameter? spec v).bind fun o _ => ?_
    cases o with
    | none => exact ih
    | some p =>
      simp only [Traced.outcome_bind]
      exact ih.map _

theorem settled_mediaSchema (v : Value) : Settled spec [.media v] (spec.mediaSchema v) := by
  refine Settles.whole rfl (.next (judges_holds spec) rfl rfl fun w _ => ?_)
  cases w with
  | scalar s => exact .pure _
  | array items => exact .pure _
  | object fields =>
    simp only [Need.ofMedia, needAt]
    cases Fields.get? fields "schema" with
    | none => exact .pure _
    | some v => exact settles_schema spec v

theorem settled_contentOf? (v : Value) : Settled spec [.body v] (spec.contentOf? v) := by
  rw [contentOf?_eq]
  refine Settles.whole rfl (.next (judges_holds spec) rfl rfl fun o _ => ?_)
  cases o with
  | none => exact .pure _
  | some fields =>
    rw [Option.toList_some, List.flatMap_singleton]
    have hcontent : Settled spec (Need.ofBody spec fields) (spec.content fields) :=
      .entries (judges_holds spec) fun media _ =>
        (settles_schemasOf (settled_mediaSchema spec) media).map _
    exact hcontent.map _

theorem settled_answersOf (fields : Fields) :
    Settled spec (needEach .body fields) (spec.answersOf fields) := by
  induction fields with
  | nil => exact .pure _
  | cons p rest ih => exact (settled_contentOf? spec p.2).bind fun content _ => ih.map _

theorem settled_requestBody? (fields : Fields) :
    Settled spec (needAt .body fields "requestBody") (spec.requestBody? fields) := by
  unfold needAt requestBody?
  cases Fields.get? fields "requestBody" with
  | none => exact .pure _
  | some body => exact settled_contentOf? spec body

theorem objectFields_bind {β : Type} (v : Value) (f : Fields → Except ReadFailure β) :
    spec.objectFields v >>= f = spec.objectAt? v >>= fun o => f (o.getD []) := by
  rw [objectFields_eq, bind_assoc]
  rfl

theorem settled_operation (verb : Verb) (shared v : Value) :
    Settled spec [.operation shared v] (spec.operation verb shared v).outcome := by
  rw [outcome_operation, objectFields_bind]
  refine Settles.whole rfl (.next (judges_holds spec) rfl rfl fun o _ => ?_)
  refine .next (judges_holds spec) rfl rfl fun shared _ => ?_
  refine .listed (judges_holds spec) fun own _ => ?_
  simp only [parameters, Traced.outcome_bind, Traced.outcome_pure, bind_assoc]
  refine (settled_parametersOf spec own).bind fun own _ => ?_
  refine (settled_parametersOf spec shared).bind fun shared _ => ?_
  refine (settled_requestBody? spec _).bind fun body _ => ?_
  refine .entries (judges_holds spec) fun answers _ => ?_
  refine (settled_answersOf spec answers).bind fun answers _ => ?_
  exact Settles.map _ (.leaf (judges_holds spec) rfl rfl)

theorem settled_operationsOf (shared : Value) (fields : Fields) :
    Settled spec (needEach (.operation shared) (operationFields fields))
      (spec.operationsOf shared fields).outcome := by
  induction fields with
  | nil => exact .pure _
  | cons p rest ih =>
    obtain ⟨key, v⟩ := p
    rw [operationsOf, operationFields]
    cases hverb : Verb.ofText? key.display with
    | none =>
      rw [List.filter_cons_of_neg (by simp [hverb])]
      exact ih
    | some verb =>
      rw [List.filter_cons_of_pos (by simp [hverb])]
      simp only [Traced.outcome_bind]
      exact (settled_operation spec verb shared v).bind fun o _ => ih.map _

theorem settled_route (path : String) (v : Value) :
    Settled spec [.route v] (spec.route path v).outcome := by
  simp only [route, Traced.outcome_bind, Traced.outcome_lift]
  rw [objectFields_bind]
  refine Settles.whole rfl (.next (judges_holds spec) rfl rfl fun o _ => ?_)
  refine .next (judges_holds spec) rfl rfl fun shared _ => ?_
  exact (settled_operationsOf spec shared _).map _

theorem settled_routesOf (fields : Fields) :
    Settled spec (needEach .route fields) (spec.routesOf fields).outcome := by
  induction fields with
  | nil => exact .pure _
  | cons p rest ih =>
    simp only [routesOf, Traced.outcome_bind]
    exact (settled_route spec p.1.display p.2).bind fun r _ => ih.map _

theorem entriesUnder_eq {name : String} (h : spec.section? fields name = .ok v) :
    spec.entriesUnder fields name = fieldsOf v := by
  rw [entriesUnder, h]
  rfl

theorem settled_document : Settled spec [.document] spec.document.outcome := by
  have hj := judges_holds spec
  simp only [document, Traced.outcome_bind, Traced.outcome_lift]
  refine Settles.whole rfl (.next hj rfl rfl fun root _ => ?_)
  refine Settles.bind (.leaf (d := .present root "info") hj rfl rfl) fun info hinfo => ?_
  refine .entries hj fun components _ => ?_
  refine Settles.bind (.leaf (d := .present components "schemas") hj rfl rfl)
    fun schemas hschemas => ?_
  rw [← entriesUnder_eq spec hinfo]
  refine .next hj rfl rfl fun info _ => ?_
  refine (settled_displayField spec info "title" "API").bind fun title _ => ?_
  refine (settled_displayField spec info "version" "0.0.0").bind fun version _ => ?_
  rw [← entriesUnder_eq spec hschemas]
  refine .next hj rfl rfl fun schemas _ => ?_
  refine (settles_schemasOf (settles_schema spec) schemas).bind fun schemas _ => ?_
  refine .entries hj fun paths _ => ?_
  exact (settled_routesOf spec paths).bind_nil fun routes => .pure _

end Parts

/-- A document is read where everything that it needs is found. -/
theorem document_eq_ok_iff :
    (∃ d, spec.document.outcome = .ok d) ↔ Holds spec .document := by
  constructor
  · rintro ⟨d, hd⟩
    exact (settled_document spec).ok d hd _ List.mem_cons_self
  · intro h
    cases hd : spec.document.outcome with
    | ok d => exact ⟨d, rfl⟩
    | error e => exact absurd h ((settled_document spec).ends hd).not_holds

/-- Reading ends otherwise as the first need does that is not met. -/
theorem document_eq_error_iff : spec.document.outcome = .error e ↔ Ends spec .document e := by
  constructor
  · exact (settled_document spec).ends
  · intro h
    cases hd : spec.document.outcome with
    | ok d => exact absurd (document_eq_ok_iff.mp ⟨d, hd⟩) h.not_holds
    | error e' => rw [((settled_document spec).ends hd).unique h]

/-- Every failure to read a specification is one that is reported, and ends a run that comes to read
it with the exit code one. -/
structure ReportsFaults (spec : Spec) : Prop where
  failure : ∀ e, spec.document.outcome = .error e →
    ∃ source reason, e = .unreadable source reason
  exit : ∀ o desk e, Command.Reads o desk spec → spec.document.outcome = .error e →
    ((Command.execute o).run.run desk).1 = .ok 1

theorem reportsFaults_iff_document : ReportsFaults spec ↔
    (∃ d, spec.document.outcome = .ok d) ∨
      ∃ source reason, spec.document.outcome = .error (.unreadable source reason) := by
  constructor
  · intro h
    cases hd : spec.document.outcome with
    | ok d => exact .inl ⟨d, rfl⟩
    | error e =>
      obtain ⟨source, reason, rfl⟩ := h.failure e hd
      exact .inr ⟨source, reason, rfl⟩
  · intro h
    have hfailure : ∀ e, spec.document.outcome = .error e →
        ∃ source reason, e = .unreadable source reason := by
      intro e he
      rcases h with ⟨d, hd⟩ | ⟨source, reason, hd⟩
      · cases hd.symm.trans he
      · exact ⟨source, reason, Except.error.inj (he.symm.trans hd)⟩
    refine ⟨hfailure, fun o desk e hreads he => ?_⟩
    obtain ⟨source, reason, rfl⟩ := hfailure e he
    exact Command.execute_of_error hreads he

/-- The faults of a specification are reported if it has none, if it is no object as a whole, or if
it is a plain one and the first fault is a chain of local references that leads to no object. -/
theorem reportsFaults_iff (spec : Spec) : ReportsFaults spec ↔ Holds spec .document ∨
    (∃ found, spec.rootFields = .error (.unreadable spec.source (.rootNotObject found))) ∨
    spec.linkage = .plain ∧ ∃ v reason, Reference.follow spec.root v = .error reason ∧
      Fails spec .document (.unreadable spec.source reason) := by
  have hfails : ∀ source reason, spec.document.outcome = .error (.unreadable source reason) ↔
      Fails spec .document (.unreadable source reason) := by
    intro source reason
    rw [document_eq_error_iff]
    constructor
    · rintro (h | ⟨h, -⟩)
      · exact h
      · cases h
    · exact .inl
  rw [reportsFaults_iff_document, document_eq_ok_iff]
  apply or_congr_right
  constructor
  · rintro ⟨source, reason, h⟩
    have hfirst := (hfails source reason).mp h
    rcases isReportedAt_of_fails hfirst with ⟨rfl, ⟨found, rfl, hroot⟩ | ⟨hplain, v, hv⟩⟩
    · exact .inl ⟨found, hroot⟩
    · exact .inr ⟨hplain, v, reason, hv, hfirst⟩
  · rintro (⟨found, hroot⟩ | ⟨-, v, reason, -, hfirst⟩)
    · have hneeds : Need.needs spec .document = [] ++ .root :: [] := by
        rw [Need.needs, hroot]
        rfl
      refine ⟨spec.source, .rootNotObject found, (hfails _ _).mpr ?_⟩
      exact .inside hneeds (List.forall_mem_nil _) (.here (failureOf_eq_some_iff.mpr hroot))
    · exact ⟨spec.source, reason, (hfails _ _).mpr hfirst⟩

/-- An operation with a reference to a parameter that is not there. -/
def danglingParameter : Value :=
  .object [(.text "paths", .object [(.text "/a", .object [(.text "get", .object [
    (.text "parameters", .array [
      .object [(.text "$ref", .text "#/components/parameters/Missing")]])])])])]

/-- A specification with a text where its title should be. -/
def textForInfo : Value :=
  .object [(.text "info", .text "x")]

/-- A component schema whose items are arrays of such items again. -/
def itemsInside : Value :=
  .object [(.text "components", .object [(.text "schemas", .object [
      (.text "A", .object [(.text "$ref", .text "#/x")])])]),
    (.text "x", .object [(.text "type", .text "array"),
      (.text "items", .object [(.text "$ref", .text "#/x")])])]

theorem not_reportsFaults_brokenSpecs :
    ¬ ReportsFaults { root := danglingParameter, linkage := .linked } ∧
      ¬ ReportsFaults { root := textForInfo } ∧ ¬ ReportsFaults { root := itemsInside } := by
  refine ⟨fun h => ?_, fun h => ?_, fun h => ?_⟩
  · obtain ⟨source, reason, he⟩ := h.failure (.brokenLink "#/components/parameters/Missing"
      (.unresolvable "/components/parameters/Missing")) rfl
    cases he
  · obtain ⟨source, reason, he⟩ := h.failure .objectExpected rfl
    cases he
  · obtain ⟨source, reason, he⟩ := h.failure .endless rfl
    cases he

end Spec

end ApiStubs
