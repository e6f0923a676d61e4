import ApiStubs.Proofs.Spec.Looking

/-! # Parameters of paths and operations

A parameter is told apart by its name and its location. An operation has the parameters of its path
for which it has none of its own, and then its own. What is no object or has no name is no parameter
on either side.
-/

namespace ApiStubs

/-- What parameters are told apart by. -/
def Parameter.key (p : Parameter) : String × String :=
  (p.name, p.location)

namespace Spec

open Reference

variable {spec : Spec} {v w : Value} {fields : Fields} {p : Parameter} {values : List Value}
  {shared own merged parameters : List Parameter} {key : String × String}

/-- A value is an object or refers to one with these fields. -/
structure Describes (spec : Spec) (v : Value) (fields : Fields) : Prop where
  seen : ∃ inner, spec.look v = .ok (.object inner)
  followed : spec.follow v = .ok (.object fields)

/-- A value that is no parameter: it is no object, or there is no name in it. -/
inductive Nameless (spec : Spec) (v : Value) : Prop where
  | other {w : Value} : spec.look v = .ok w → (∀ fields, w ≠ .object fields) → Nameless spec v
  | unnamed {fields : Fields} : Describes spec v fields → Fields.get? fields "name" = none →
      Nameless spec v

/-- A value that is a parameter. It is in the query if it does not say where it is. -/
inductive IsParameter (spec : Spec) (v : Value) (p : Parameter) : Prop where
  | named {fields : Fields} {name : Value} : Describes spec v fields →
      Fields.get? fields "name" = some name → spec.display name = .ok p.name →
      spec.displayField fields "in" "query" = .ok p.location →
      (Fields.get? fields "schema").elim (.ok {}) spec.schema = .ok p.schema → IsParameter spec v p

/-- The parameters among some values, in order. -/
inductive Reads (spec : Spec) : List Value → List Parameter → Prop where
  | nil : Reads spec [] []
  | skip {v : Value} {values : List Value} {parameters : List Parameter} : Nameless spec v →
      Reads spec values parameters → Reads spec (v :: values) parameters
  | keep {v : Value} {p : Parameter} {values : List Value} {parameters : List Parameter} :
      IsParameter spec v p → Reads spec values parameters →
      Reads spec (v :: values) (p :: parameters)

/-- The parameters of a path and those of an operation, put together for the operation. -/
structure Merge (shared own merged : List Parameter) : Prop where
  order : merged = shared.filter (fun p => p.key ∉ own.map Parameter.key) ++ own
  keys : ∀ key, key ∈ merged.map Parameter.key ↔
    key ∈ shared.map Parameter.key ∨ key ∈ own.map Parameter.key
  overridden : ∀ key ∈ own.map Parameter.key,
    merged.filter (·.key = key) = own.filter (·.key = key)
  inherited : ∀ key ∉ own.map Parameter.key,
    merged.filter (·.key = key) = shared.filter (·.key = key)
  nodup : (shared.map Parameter.key).Nodup → (own.map Parameter.key).Nodup →
    (merged.map Parameter.key).Nodup

section Reading

theorem objectAt?_eq_some_iff : spec.objectAt? v = .ok (some fields) ↔ Describes spec v fields := by
  constructor
  · intro h
    obtain ⟨w, hw, h⟩ := except_bind_eq_ok.mp h
    split at h
    · obtain ⟨u, hu, h⟩ := except_bind_eq_ok.mp h
      split at h
      · cases h
        exact ⟨⟨_, hw⟩, hu⟩
      · cases h
    · cases h
  · rintro ⟨⟨inner, hseen⟩, hfollowed⟩
    simp only [objectAt?, hseen, hfollowed, Bind.bind, Except.bind]

/-- What is seen as an object is followed to an object. -/
theorem object_of_follow {inner : Fields} (hseen : spec.look v = .ok (.object inner))
    (hw : spec.follow v = .ok w) : ∃ fields, w = .object fields := by
  obtain ⟨root, linkage, source⟩ := spec
  cases linkage with
  | plain =>
    cases hseen
    obtain ⟨refs, hchain, -⟩ := follow_eq_ok_iff.mp (follow_plain_eq_ok_iff.mp hw)
    exact hchain.object ⟨inner, rfl⟩
  | linked => exact ⟨inner, Except.ok.inj (hw.symm.trans hseen)⟩

theorem objectAt?_eq_none_iff : spec.objectAt? v = .ok none ↔
    ∃ w, spec.look v = .ok w ∧ ∀ fields, w ≠ .object fields := by
  constructor
  · intro h
    obtain ⟨w, hw, h⟩ := except_bind_eq_ok.mp h
    split at h
    · obtain ⟨u, hu, h⟩ := except_bind_eq_ok.mp h
      obtain ⟨fields, rfl⟩ := object_of_follow hw hu
      cases h
    · next hother => exact ⟨w, hw, hother⟩
  · rintro ⟨w, hw, hother⟩
    rw [objectAt?, hw]
    cases w with
    | object fields => exact absurd rfl (hother fields)
    | scalar k => rfl
    | array items => rfl

theorem parameterOf?_of_named {name : Value} (h : Fields.get? fields "name" = some name) :
    spec.parameterOf? fields = spec.display name >>= fun name =>
      spec.displayField fields "in" "query" >>= fun location =>
        (Fields.get? fields "schema").elim (.ok {}) spec.schema >>= fun schema =>
          .ok (some ⟨name, location, schema⟩) := by
  rw [parameterOf?, h]
  cases Fields.get? fields "schema" <;> rfl

theorem parameterOf?_eq_none_iff :
    spec.parameterOf? fields = .ok none ↔ Fields.get? fields "name" = none := by
  cases h : Fields.get? fields "name" with
  | none => simp [parameterOf?, h]
  | some name => simp [parameterOf?_of_named h, except_bind_eq_ok]

theorem parameterOf?_eq_some_iff : spec.parameterOf? fields = .ok (some p) ↔
    ∃ name, Fields.get? fields "name" = some name ∧ spec.display name = .ok p.name ∧
      spec.displayField fields "in" "query" = .ok p.location ∧
        (Fields.get? fields "schema").elim (.ok {}) spec.schema = .ok p.schema := by
  cases h : Fields.get? fields "name" with
  | none => simp [parameterOf?, h]
  | some name =>
    rw [parameterOf?_of_named h]
    simp only [except_bind_eq_ok, Option.some.injEq, exists_eq_left']
    constructor
    · rintro ⟨_, hname, _, hlocation, _, hschema, hp⟩
      cases hp
      exact ⟨hname, hlocation, hschema⟩
    · rintro ⟨hname, hlocation, hschema⟩
      exact ⟨_, hname, _, hlocation, _, hschema, rfl⟩

theorem parameter?_eq_none_iff :
    (spec.parameter? v).outcome = .ok none ↔ Nameless spec v := by
  rw [outcome_parameter?, except_bind_eq_ok]
  constructor
  · rintro ⟨o, ho, h⟩
    cases o with
    | none =>
      obtain ⟨w, hw, hother⟩ := objectAt?_eq_none_iff.mp ho
      exact .other hw hother
    | some fields => exact .unnamed (objectAt?_eq_some_iff.mp ho) (parameterOf?_eq_none_iff.mp h)
  · rintro (⟨hw, hother⟩ | ⟨hfields, hname⟩)
    · exact ⟨none, objectAt?_eq_none_iff.mpr ⟨_, hw, hother⟩, rfl⟩
    · exact ⟨_, objectAt?_eq_some_iff.mpr hfields, parameterOf?_eq_none_iff.mpr hname⟩

theorem parameter?_eq_some_iff :
    (spec.parameter? v).outcome = .ok (some p) ↔ IsParameter spec v p := by
  rw [outcome_parameter?, except_bind_eq_ok]
  constructor
  · rintro ⟨o, ho, h⟩
    cases o with
    | none => cases h
    | some fields =>
      obtain ⟨name, hname, hdisplay, hlocation, hschema⟩ := parameterOf?_eq_some_iff.mp h
      exact .named (objectAt?_eq_some_iff.mp ho) hname hdisplay hlocation hschema
  · rintro ⟨hfields, hname, hdisplay, hlocation, hschema⟩
    exact ⟨_, objectAt?_eq_some_iff.mpr hfields,
      parameterOf?_eq_some_iff.mpr ⟨_, hname, hdisplay, hlocation, hschema⟩⟩

theorem outcome_parametersOf_cons (spec : Spec) (v : Value) (values : List Value) :
    (spec.parametersOf (v :: values)).outcome = (spec.parameter? v).outcome >>= fun p? =>
      (spec.parametersOf values).outcome >>= fun parameters => .ok (p?.toList ++ parameters) := by
  rw [parametersOf, Traced.outcome_bind]
  refine congrArg _ (funext fun p? => ?_)
  cases p? with
  | some p => exact Traced.outcome_bind _ _
  | none => exact (bind_pure (spec.parametersOf values).outcome).symm

theorem parametersOf_eq_ok_iff :
    (spec.parametersOf values).outcome = .ok parameters ↔ Reads spec values parameters := by
  induction values generalizing parameters with
  | nil =>
    constructor
    · intro h
      cases h
      exact .nil
    · intro h
      cases h
      rfl
  | cons v values ih =>
    rw [outcome_parametersOf_cons]
    constructor
    · intro h
      obtain ⟨p?, hp, h⟩ := except_bind_eq_ok.mp h
      obtain ⟨rest, hrest, h⟩ := except_bind_eq_ok.mp h
      cases h
      cases p? with
      | none => exact .skip (parameter?_eq_none_iff.mp hp) (ih.mp hrest)
      | some p => exact .keep (parameter?_eq_some_iff.mp hp) (ih.mp hrest)
    · intro h
      cases h with
      | skip hv hrest => rw [parameter?_eq_none_iff.mpr hv, ih.mpr hrest]; rfl
      | keep hv hrest => rw [parameter?_eq_some_iff.mpr hv, ih.mpr hrest]; rfl

/-- A value that is no parameter could as well not be there. -/
theorem outcome_parametersOf_append_cons (h : Nameless spec v) (before after : List Value) :
    (spec.parametersOf (before ++ v :: after)).outcome =
      (spec.parametersOf (before ++ after)).outcome := by
  induction before with
  | nil =>
    rw [List.nil_append, List.nil_append, outcome_parametersOf_cons, parameter?_eq_none_iff.mpr h]
    exact bind_pure (spec.parametersOf after).outcome
  | cons w before ih =>
    simp only [List.cons_append, outcome_parametersOf_cons, ih]

end Reading

section Merging

theorem mergeParameters_eq (shared own : List Parameter) : mergeParameters shared own =
    shared.filter (fun p => p.key ∉ own.map Parameter.key) ++ own := by
  rw [mergeParameters, List.append_cancel_right_eq]
  refine List.filter_congr fun p _ => ?_
  have hany : (own.any fun q => q.name == p.name && q.location == p.location) =
      decide (p.key ∈ own.map Parameter.key) := by
    rw [Bool.eq_iff_iff, List.any_eq_true, decide_eq_true_iff, List.mem_map]
    simp only [Bool.and_eq_true, beq_iff_eq, Parameter.key, Prod.mk.injEq]
  rw [hany, decide_not]

/-- The parameters that are not overridden are in front of those of the operation. -/
theorem merge_of_order (h : merged =
    shared.filter (fun p => p.key ∉ own.map Parameter.key) ++ own) : Merge shared own merged where
  order := h
  keys key := by
    rw [h, List.map_append, List.mem_append]
    by_cases hown : key ∈ own.map Parameter.key
    · exact iff_of_true (.inr hown) (.inr hown)
    · refine or_congr_left ⟨?_, ?_⟩ <;> intro hkey <;> obtain ⟨p, hp, rfl⟩ := List.mem_map.mp hkey
      · exact List.mem_map_of_mem (List.mem_of_mem_filter hp)
      · exact List.mem_map_of_mem (List.mem_filter.mpr ⟨hp, by simpa using hown⟩)
  overridden key hown := by
    have hnone : (shared.filter fun p => p.key ∉ own.map Parameter.key).filter (·.key = key) =
        [] := by
      refine List.filter_eq_nil_iff.mpr fun p hp hkey => ?_
      rw [← of_decide_eq_true hkey] at hown
      exact of_decide_eq_true (List.mem_filter.mp hp).2 hown
    rw [h, List.filter_append, hnone, List.nil_append]
  inherited key hown := by
    have hnone : own.filter (·.key = key) = [] :=
      List.filter_eq_nil_iff.mpr fun p hp hkey =>
        hown (of_decide_eq_true hkey ▸ List.mem_map_of_mem hp)
    rw [h, List.filter_append, hnone, List.append_nil, List.filter_filter]
    refine List.filter_congr fun p _ => ?_
    by_cases hkey : p.key = key
    · simp [hkey, hown]
    · simp [hkey]
  nodup hshared hown := by
    rw [h, List.map_append, List.nodup_append]
    refine ⟨hshared.sublist (List.filter_sublist.map _), hown, ?_⟩
    rintro key hkey _ hin rfl
    obtain ⟨p, hp, rfl⟩ := List.mem_map.mp hkey
    exact of_decide_eq_true (List.mem_filter.mp hp).2 hin

theorem merge_iff : Merge shared own merged ↔ mergeParameters shared own = merged := by
  rw [mergeParameters_eq]
  exact ⟨fun h => h.order.symm, fun h => merge_of_order h.symm⟩

theorem outcome_parameters (spec : Spec) (shared own : List Value) :
    (spec.parameters shared own).outcome = (spec.parametersOf own).outcome >>= fun own =>
      (spec.parametersOf shared).outcome >>= fun shared => .ok (mergeParameters shared own) := by
  simp only [Spec.parameters, Traced.outcome_bind, Traced.outcome_pure]

end Merging

/-- Parameters are read on either side and put together, and what is no parameter makes no
difference on either side. -/
theorem parameters_eq_ok_iff (spec : Spec) (shared own : List Value) :
    (∀ merged, (spec.parameters shared own).outcome = .ok merged ↔
      ∃ ofPath ofOperation, Reads spec shared ofPath ∧ Reads spec own ofOperation ∧
        Merge ofPath ofOperation merged) ∧
      ∀ v before after, Nameless spec v →
        (spec.parameters (before ++ v :: after) own).outcome =
            (spec.parameters (before ++ after) own).outcome ∧
          (spec.parameters shared (before ++ v :: after)).outcome =
            (spec.parameters shared (before ++ after)).outcome := by
  constructor
  · intro merged
    simp only [outcome_parameters, except_bind_eq_ok, parametersOf_eq_ok_iff, merge_iff]
    constructor
    · rintro ⟨ofOperation, hown, ofPath, hshared, hmerged⟩
      exact ⟨ofPath, ofOperation, hshared, hown, Except.ok.inj hmerged⟩
    · rintro ⟨ofPath, ofOperation, hshared, hown, rfl⟩
      exact ⟨ofOperation, hown, ofPath, hshared, rfl⟩
  · intro v before after hv
    simp only [outcome_parameters, outcome_parametersOf_append_cons hv, and_self]

end Spec

end ApiStubs
