import ApiStubs.Proofs.Library.Signatures

/-! # Fields of models

A schema has a model exactly if the identifiers of its properties are different from each other and
each property has a type. Otherwise the first property that stands against it is reported: by its
identifier if an earlier one has it, also when there is no type either, and else by its place.
-/

namespace ApiStubs

variable {language : Language} {naming : Naming} {name x : String} {schema : Schema} {m : Model}
  {e : Problem} {taken : List String} {p : String × Schema} {fields : List ModelField}
  {properties before after : List (String × Schema)}

/-- A field has the name of its property and the type of its schema. -/
def ModelField.Stands (p : String × Schema) (f : ModelField) : Prop :=
  f.name = p.1 ∧ p.2.type? = some f.type

namespace Language

/-- What goes in front of every line of a class. -/
def margin : Language → String
  | .csharp => CSharp.margin
  | .python => Python.margin

/-- What a class says before it declares its fields, or instead of them. -/
def opening : Language → List ModelField → List String
  | .csharp, _ => []
  | .python, fields =>
    if fields = [] then ["pass"]
    else if fields.any Python.needsAlias then [Python.modelConfig]
    else []

/-- A text that declares a field under an identifier. -/
inductive Declares : Language → String → String → Prop
  | csharp (identifier type : String) :
      Declares .csharp identifier ("public " ++ type ++ " " ++ identifier ++ " \x7b get; set; \x7d")
  | python (identifier type default : String) :
      Declares .python identifier (identifier ++ ": " ++ type ++ " = " ++ default)

end Language

namespace Library

/-- The identifiers of the fields for some properties. -/
def fieldIdentifiers (naming : Naming) (properties : List (String × Schema)) : List String :=
  properties.map fun p => naming.identifier p.1

/-- Properties that can be the fields of one model. -/
structure HaveFields (naming : Naming) (properties : List (String × Schema)) : Prop where
  distinct : (fieldIdentifiers naming properties).Nodup
  typed : ∀ p ∈ properties, p.2.type? ≠ none

/-- A property that cannot be a field where some identifiers are taken, and what is reported. -/
inductive FailsField (naming : Naming) (name : String) (taken : List String)
    (p : String × Schema) : Problem → Prop
  | repeated : naming.identifier p.1 ∈ taken →
      FailsField naming name taken p (.fieldNameCollision name (naming.identifier p.1))
  | untyped : naming.identifier p.1 ∉ taken → p.2.type? = none →
      FailsField naming name taken p (.missingItems (name ++ "." ++ p.1))

/-- The model of a schema, and how its fields are written. -/
structure IsModel (language : Language) (name : String) (schema : Schema) (m : Model) : Prop where
  name : m.name = name
  fields : List.Forall₂ ModelField.Stands schema.properties m.fields
  distinct : (m.fields.map fun f => language.naming.identifier f.name).Nodup
  written : ∀ namespaceName, ∃ before declarations after,
    language.model namespaceName m =
        before ++ Text.indent language.margin
          (Text.joinWith "\n" (language.opening m.fields ++ declarations)) ++ after ∧
      List.Forall₂ language.Declares (m.fields.map fun f => language.naming.identifier f.name)
        declarations

section Building

theorem checkField_eq_ok_iff {u : Unit} :
    checkField naming name taken x = .ok u ↔ naming.identifier x ∉ taken := by
  unfold checkField
  by_cases h : naming.identifier x ∈ taken <;> simp [h]

theorem checkField_eq_error_iff : checkField naming name taken x = .error e ↔
    naming.identifier x ∈ taken ∧ e = .fieldNameCollision name (naming.identifier x) := by
  unfold checkField
  by_cases h : naming.identifier x ∈ taken <;> simp [h, eq_comm]

theorem contextOr_field (name property : String) :
    contextOr (some (name ++ "." ++ property)) = name ++ "." ++ property := by
  unfold contextOr
  split
  · next h => simp [← String.toList_eq_nil_iff] at h
  · next h => cases h
  · next h => exact (Option.some.inj h).symm

/-- One property of a model: its identifier is looked at before its type, and both before the
properties that follow. -/
theorem outcome_buildFields_cons (naming : Naming) (name : String) (taken : List String)
    (p : String × Schema) (rest : List (String × Schema)) :
    (buildFields naming name taken (p :: rest)).outcome = (do
      checkField naming name taken p.1
      let type ← typeOf (some (name ++ "." ++ p.1)) p.2
      let fields ← (buildFields naming name (naming.identifier p.1 :: taken) rest).outcome
      .ok (⟨p.1, type⟩ :: fields)) := by
  rw [buildFields]
  simp only [Traced.outcome_bind, outcome_noteUnmodeled, Traced.outcome_lift, Traced.outcome_pure]
  rfl

theorem buildFields_eq_ok_iff : (buildFields naming name taken properties).outcome = .ok fields ↔
    Free taken (fieldIdentifiers naming properties) ∧
      List.Forall₂ ModelField.Stands properties fields := by
  induction properties generalizing taken fields with
  | nil => simp [buildFields, fieldIdentifiers, free_nil, List.forall₂_nil_left_iff, eq_comm]
  | cons p rest ih =>
    simp only [outcome_buildFields_cons, except_bind_eq_ok, checkField_eq_ok_iff, typeOf_eq_ok_iff,
      ih, fieldIdentifiers, List.map_cons, free_cons, List.forall₂_cons_left_iff]
    constructor
    · rintro ⟨_, hfree, t, ht, others, ⟨hrest, hothers⟩, ⟨⟩⟩
      exact ⟨⟨hfree, hrest⟩, _, _, ⟨rfl, ht⟩, hothers, rfl⟩
    · rintro ⟨⟨hfree, hrest⟩, f, others, ⟨hname, ht⟩, hothers, rfl⟩
      exact ⟨(), hfree, f.type, ht, others, ⟨hrest, hothers⟩, by rw [← hname]⟩

theorem FailsField.of_mem_iff {other : List String} (hmem : ∀ x, x ∈ taken ↔ x ∈ other)
    (h : FailsField naming name taken p e) : FailsField naming name other p e := by
  cases h with
  | repeated htaken => exact .repeated ((hmem _).mp htaken)
  | untyped hfree hnone => exact .untyped (fun htaken => hfree ((hmem _).mpr htaken)) hnone

theorem mem_append_cons_iff {y : String} {l : List String} :
    x ∈ l ++ y :: taken ↔ x ∈ (y :: l) ++ taken := by
  simp only [List.cons_append, List.mem_append, List.mem_cons, or_left_comm]

theorem buildFields_eq_error_iff : (buildFields naming name taken properties).outcome = .error e ↔
    ∃ before p after, properties = before ++ p :: after ∧
      Free taken (fieldIdentifiers naming before) ∧ (∀ q ∈ before, q.2.type? ≠ none) ∧
      FailsField naming name (fieldIdentifiers naming before ++ taken) p e := by
  induction properties generalizing taken with
  | nil => simp [buildFields]
  | cons p rest ih =>
    simp only [outcome_buildFields_cons, except_bind_eq_error, checkField_eq_ok_iff,
      checkField_eq_error_iff, typeOf_eq_ok_iff, typeOf_eq_error_iff, contextOr_field, ih,
      reduceCtorEq, and_false, exists_false, or_false]
    constructor
    · rintro (⟨htaken, rfl⟩ | ⟨_, hfree, ⟨hnone, rfl⟩ |
        ⟨t, ht, before, q, after, rfl, hbefore, htyped, hq⟩⟩)
      · exact ⟨[], p, rest, rfl, free_nil, by simp, .repeated htaken⟩
      · exact ⟨[], p, rest, rfl, free_nil, by simp, .untyped hfree hnone⟩
      · exact ⟨p :: before, q, after, rfl, free_cons.mpr ⟨hfree, hbefore⟩,
          List.forall_mem_cons.mpr ⟨by simp [ht], htyped⟩,
          hq.of_mem_iff fun _ => mem_append_cons_iff⟩
    · rintro ⟨before, q, after, heq, hbefore, htyped, hq⟩
      cases before with
      | nil =>
        cases heq
        cases hq with
        | repeated htaken => exact .inl ⟨htaken, rfl⟩
        | untyped hfree hnone => exact .inr ⟨(), hfree, .inl ⟨hnone, rfl⟩⟩
      | cons p before =>
        cases heq
        obtain ⟨hp, htyped⟩ := List.forall_mem_cons.mp htyped
        obtain ⟨t, ht⟩ := Option.ne_none_iff_exists'.mp hp
        obtain ⟨hfree, hbefore⟩ := free_cons.mp hbefore
        exact .inr ⟨(), hfree, .inr ⟨t, ht, before, q, after, rfl, hbefore, htyped,
          hq.of_mem_iff fun _ => mem_append_cons_iff.symm⟩⟩

end Building

section Writing

theorem declares_property (f : ModelField) :
    Language.csharp.Declares (CSharp.identifier f.name) (CSharp.property f) :=
  .csharp _ _

theorem declares_field (f : ModelField) :
    Language.python.Declares (Python.identifier f.name) (Python.field f) := by
  unfold Python.field
  split
  · have htext : Python.identifier f.name ++ ": " ++ Python.fieldType f.type ++
        " = Field(default=None, alias=" ++ Text.literal f.name ++ ")" =
          Python.identifier f.name ++ ": " ++ Python.fieldType f.type ++ " = " ++
            ("Field(default=None, alias=" ++ Text.literal f.name ++ ")") := by
      have hcut : " = Field(default=None, alias=" = " = " ++ "Field(default=None, alias=" := by simp
      rw [hcut]
      simp only [String.append_assoc]
    rw [htext]
    exact .python _ _ _
  · have htext : Python.identifier f.name ++ ": " ++ Python.fieldType f.type ++ " = None" =
        Python.identifier f.name ++ ": " ++ Python.fieldType f.type ++ " = " ++ "None" := by
      have hcut : " = None" = " = " ++ "None" := by simp
      rw [hcut]
      simp only [String.append_assoc]
    rw [htext]
    exact .python _ _ _

theorem forall₂_declares {language : Language} {declaration : ModelField → String}
    (h : ∀ f, language.Declares (language.naming.identifier f.name) (declaration f))
    (fields : List ModelField) :
    List.Forall₂ language.Declares (fields.map fun f => language.naming.identifier f.name)
      (fields.map declaration) := by
  rw [List.forall₂_map_left_iff, List.forall₂_map_right_iff, List.forall₂_same]
  exact fun f _ => h f

theorem members_fields (fields : List ModelField) :
    Python.members
        (if fields.any Python.needsAlias then Python.modelConfig :: fields.map Python.field
          else fields.map Python.field) "\n" =
      Text.indent Python.margin
        (Text.joinWith "\n" (Language.python.opening fields ++ fields.map Python.field)) := by
  match fields with
  | [] => rfl
  | f :: rest =>
    have hrows : Python.fieldRows (f :: rest) ≠ [] := by
      unfold Python.fieldRows
      split <;> simp
    have hbody : (Text.joinWith "\n" (Python.fieldRows (f :: rest))).isEmpty ≠ true := by
      rw [Ne, String.isEmpty_iff, Python.joinWith_eq_empty_iff, not_or]
      exact ⟨hrows, Python.fieldRows_ne_singleton _⟩
    rw [Python.members, Python.joinWith_fieldRows, if_neg hbody, ← Python.joinWith_fieldRows,
      Language.opening, if_neg (List.cons_ne_nil f rest)]
    split
    · rfl
    · rfl

theorem exists_model_eq (language : Language) (namespaceName : String) (m : Model) :
    ∃ before declarations after,
      language.model namespaceName m =
          before ++ Text.indent language.margin
            (Text.joinWith "\n" (language.opening m.fields ++ declarations)) ++ after ∧
        List.Forall₂ language.Declares (m.fields.map fun f => language.naming.identifier f.name)
          declarations := by
  cases language with
  | csharp =>
    exact ⟨_, m.fields.map CSharp.property, _, rfl, forall₂_declares declares_property m.fields⟩
  | python =>
    have hmodel : ∃ before, Language.python.model namespaceName m = before ++
        Python.members (if m.fields.any Python.needsAlias then
          Python.modelConfig :: m.fields.map Python.field else m.fields.map Python.field) "\n" ++
            "\n" :=
      ⟨_, rfl⟩
    obtain ⟨before, hbefore⟩ := hmodel
    rw [members_fields] at hbefore
    exact ⟨before, _, "\n", hbefore, forall₂_declares declares_field m.fields⟩

end Writing

theorem free_nil_iff {l : List String} : Free [] l ↔ l.Nodup := by
  simp [Free]

theorem map_identifier_fields (naming : Naming)
    (h : List.Forall₂ ModelField.Stands properties fields) :
    (fields.map fun f => naming.identifier f.name) = fieldIdentifiers naming properties := by
  induction h with
  | nil => rfl
  | cons hstands _ ih => rw [List.map_cons, ih, hstands.1]; rfl

theorem typed_of_stands (h : List.Forall₂ ModelField.Stands properties fields) :
    ∀ p ∈ properties, p.2.type? ≠ none := by
  induction h with
  | nil => simp
  | cons hstands _ ih => exact List.forall_mem_cons.mpr ⟨by simp [hstands.2], ih⟩

theorem buildModel_eq_ok_iff : (buildModel language.naming name schema).outcome = .ok m ↔
    HaveFields language.naming schema.properties ∧ IsModel language name schema m := by
  simp only [buildModel, Traced.outcome_bind_eq_ok, buildFields_eq_ok_iff, free_nil_iff]
  constructor
  · rintro ⟨fields, ⟨hdistinct, hfields⟩, ⟨⟩⟩
    refine ⟨⟨hdistinct, typed_of_stands hfields⟩, rfl, hfields, ?_, fun namespaceName =>
      exists_model_eq language namespaceName _⟩
    rwa [map_identifier_fields language.naming hfields]
  · rintro ⟨hhave, hm⟩
    refine ⟨m.fields, ⟨hhave.distinct, hm.fields⟩, ?_⟩
    rw [← hm.name]
    rfl

theorem buildModel_eq_error_iff : (buildModel language.naming name schema).outcome = .error e ↔
    ∃ before p after, schema.properties = before ++ p :: after ∧
      HaveFields language.naming before ∧
      FailsField language.naming name (fieldIdentifiers language.naming before) p e := by
  simp only [buildModel, Traced.outcome_bind_eq_error, Traced.outcome_pure, reduceCtorEq, and_false,
    exists_false, or_false, buildFields_eq_error_iff, free_nil_iff, List.append_nil]
  constructor
  · rintro ⟨before, p, after, heq, hdistinct, htyped, hp⟩
    exact ⟨before, p, after, heq, ⟨hdistinct, htyped⟩, hp⟩
  · rintro ⟨before, p, after, heq, hhave, hp⟩
    exact ⟨before, p, after, heq, hhave.distinct, hhave.typed, hp⟩

/-- What cannot be a field stands against a model. -/
theorem FailsField.not_haveFields
    (h : FailsField naming name (fieldIdentifiers naming before) p e) :
    ¬ HaveFields naming (before ++ p :: after) := by
  rintro ⟨hdistinct, htyped⟩
  cases h with
  | repeated htaken =>
    have hidentifiers : fieldIdentifiers naming (before ++ p :: after) =
        fieldIdentifiers naming before ++ naming.identifier p.1 :: fieldIdentifiers naming after :=
      List.map_append
    rw [hidentifiers] at hdistinct
    exact List.disjoint_of_nodup_append hdistinct htaken List.mem_cons_self
  | untyped _ hnone => exact htyped p (by simp) hnone

/-- A schema has a model exactly if its properties have different identifiers and types. -/
theorem buildModel_iff (language : Language) (name : String) (schema : Schema) :
    ((∃ m, (buildModel language.naming name schema).outcome = .ok m) ↔
        HaveFields language.naming schema.properties) ∧
      (∀ m, (buildModel language.naming name schema).outcome = .ok m ↔
        HaveFields language.naming schema.properties ∧ IsModel language name schema m) ∧
      ∀ e, (buildModel language.naming name schema).outcome = .error e ↔
        ∃ before p after, schema.properties = before ++ p :: after ∧
          HaveFields language.naming before ∧
          FailsField language.naming name (fieldIdentifiers language.naming before) p e := by
  refine ⟨⟨?_, ?_⟩, fun _ => buildModel_eq_ok_iff, fun _ => buildModel_eq_error_iff⟩
  · rintro ⟨m, hm⟩
    exact (buildModel_eq_ok_iff.mp hm).1
  · intro hhave
    cases h : (buildModel language.naming name schema).outcome with
    | ok m => exact ⟨m, rfl⟩
    | error e =>
      obtain ⟨before, p, after, heq, _, hp⟩ := buildModel_eq_error_iff.mp h
      exact absurd (heq ▸ hhave) hp.not_haveFields

end Library

end ApiStubs
