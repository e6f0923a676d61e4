import ApiStubs.Proofs.Spec.Checking
import ApiStubs.Proofs.Spec.Looking

/-! # Plain and linked specifications

A specification is read in two ways: local references are followed where an object is expected, or
every reference stands for its target wherever it is looked at. If it is well linked, both ways
agree on every value that the parser meets, and so on the document.
-/

namespace ApiStubs

/-- Two computations that have the same result whenever both have one. -/
def Agree {ε α : Type} (x y : Except ε α) : Prop :=
  ∀ a b, x = .ok a → y = .ok b → a = b

namespace Agree

variable {ε α β : Type} {x y : Except ε α} {f g : α → Except ε β}

theorem refl (x : Except ε α) : Agree x x := by
  intro a b ha hb
  exact Except.ok.inj (ha.symm.trans hb)

theorem bind (h : Agree x y) (hf : ∀ a, x = .ok a → y = .ok a → Agree (f a) (g a)) :
    Agree (x >>= f) (y >>= g) := by
  intro b c hb hc
  obtain ⟨a, ha, hb⟩ := except_bind_eq_ok.mp hb
  obtain ⟨a', ha', hc⟩ := except_bind_eq_ok.mp hc
  obtain rfl := h a a' ha ha'
  exact hf a ha ha' b c hb hc

/-- Both go on from one result. -/
theorem bind_ok {a : α} (hx : x = .ok a) (hy : y = .ok a) (h : Agree (f a) (g a)) :
    Agree (x >>= f) (y >>= g) := by
  subst hx hy
  exact h

end Agree

namespace Spec

open Reference

variable {root v w : Value} {role : Role} {fields : Fields} {n : ℕ} {α : Type}

theorem mem_under {names : List String} {name : String} (hn : name ∈ names)
    (hv : Fields.get? fields name = some v) : (role, v) ∈ under role fields names :=
  List.mem_map_of_mem (List.mem_filterMap.mpr ⟨name, hn, hv⟩)

theorem mem_valuesOf {p : Scalar × Value} (hp : p ∈ fields) : (role, p.2) ∈ valuesOf role fields :=
  List.mem_map_of_mem hp

/-- Everything that the parser meets in the fields of an object of some role. -/
def PartsMet (root : Value) (role : Role) (fields : Fields) : Prop :=
  ∀ role' u, (role', u) ∈ parts root role fields → Met root role' u

theorem Met.partsMet (hm : Met root role v) (hk : ¬ IsKept role v)
    (hd : Denotes root v (.object fields)) : PartsMet root role fields :=
  fun _ _ hu => hm.part hk hd hu

namespace PartsMet

variable {name : String}

theorem body_plain (h : PartsMet root .body fields) :
    ∀ v, Fields.get? fields "content" = some v → Met root .plain v := fun _ hv =>
  h _ _ (List.mem_append_left _ (List.mem_append_left _ (mem_under (by simp) hv)))

theorem body_media (h : PartsMet root .body fields) :
    ∀ p ∈ fieldsUnder fields "content", Met root .plain p.2 := fun _ hp =>
  h _ _ (List.mem_append_left _ (List.mem_append_right _ (mem_valuesOf hp)))

theorem body_schema (h : PartsMet root .body fields) :
    ∀ p ∈ fieldsUnder fields "content", ∀ media, p.2 = .object media →
      ∀ v, Fields.get? media "schema" = some v → Met root .schema v := by
  intro p hp media hmedia v hv
  refine h _ _ (List.mem_append_right _ (List.mem_flatMap.mpr ⟨p, hp, ?_⟩))
  rw [hmedia]
  exact mem_under (by simp) hv

theorem operation_plain (h : PartsMet root .operation fields)
    (hname : name ∈ ["parameters", "responses"]) :
    ∀ v, Fields.get? fields name = some v → Met root .plain v := fun _ hv =>
  h _ _ (List.mem_append_left _ (List.mem_append_left _
    (List.mem_append_left _ (mem_under hname hv))))

theorem operation_parameter (h : PartsMet root .operation fields) :
    ∀ v ∈ itemsUnder fields "parameters", Met root .parameter v := fun _ hv =>
  h _ _ (List.mem_append_left _ (List.mem_append_left _
    (List.mem_append_right _ (List.mem_map_of_mem hv))))

theorem operation_body (h : PartsMet root .operation fields) :
    ∀ v, Fields.get? fields "requestBody" = some v → Met root .body v := fun _ hv =>
  h _ _ (List.mem_append_left _ (List.mem_append_right _ (mem_under (by simp) hv)))

theorem operation_answer (h : PartsMet root .operation fields) :
    ∀ p ∈ fieldsUnder fields "responses", Met root .body p.2 := fun _ hp =>
  h _ _ (List.mem_append_right _ (mem_valuesOf hp))

theorem pathItem_plain (h : PartsMet root .pathItem fields) :
    ∀ v, Fields.get? fields "parameters" = some v → Met root .plain v := fun _ hv =>
  h _ _ (List.mem_append_left _ (List.mem_append_left _ (mem_under (by simp) hv)))

theorem pathItem_operation (h : PartsMet root .pathItem fields) :
    ∀ p ∈ operationFields fields, Met root .operation p.2 := fun _ hp =>
  h _ _ (List.mem_append_left _ (List.mem_append_right _ (mem_valuesOf hp)))

theorem pathItem_parameter (h : PartsMet root .pathItem fields)
    (hne : operationFields fields ≠ []) :
    ∀ v ∈ itemsUnder fields "parameters", Met root .parameter v := by
  intro v hv
  refine h _ _ (List.mem_append_right _ ?_)
  rw [if_neg hne]
  exact List.mem_map_of_mem hv

end PartsMet

/-- The members of a list are met as parameters wherever they are not scalars. -/
def ListsParameters (root list : Value) : Prop :=
  ∀ members, membersOf list = .ok members →
    ∀ v ∈ members, Met root .parameter v ∨ ∃ k, v = .scalar k

theorem listsParameters_listAt {name : String}
    (hm : ∀ v ∈ itemsUnder fields name, Met root .parameter v) :
    ListsParameters root (listAt fields name) :=
  fun _ hmembers v hv => (mem_membersOf_listAt hmembers hv).imp_left (hm v)

theorem agree_schemasOf {read read' : Value → Except ReadFailure Schema}
    (hread : ∀ p ∈ fields, Agree (read p.2) (read' p.2)) :
    Agree (schemasOf read fields) (schemasOf read' fields) := by
  induction fields with
  | nil => exact .refl _
  | cons p rest ih =>
    obtain ⟨hfirst, hrest⟩ := List.forall_mem_cons.mp hread
    refine hfirst.bind fun schema _ _ => (ih hrest).bind fun schemas _ _ => .refl _

section Both

variable (h : WellLinked root) {s t : Spec} (hs : s.root = root) (ht : t.root = root)
include h hs ht

theorem agree_objectAt? (hv : Referring root v) : Agree (s.objectAt? v) (t.objectAt? v) := by
  intro a b ha hb
  rcases objectAt?_eq_ok h hs hv ha with ⟨f, rfl, hf⟩ | ⟨rfl, hno⟩ <;>
    rcases objectAt?_eq_ok h ht hv hb with ⟨g, rfl, hg⟩ | ⟨rfl, hno'⟩
  · rw [Value.object.inj (hf.unique hg)]
  · exact absurd ((h.localChains.object_iff hv hf).mpr ⟨f, rfl⟩) hno'
  · exact absurd ((h.localChains.object_iff hv hg).mpr ⟨g, rfl⟩) hno
  · rfl

/-- Where an object is expected, it is enough to agree on the fields of what is denoted. -/
theorem agree_object {f g : Option Fields → Except ReadFailure α} (hv : Referring root v)
    (hsome : ∀ fields, Denotes root v (.object fields) → Agree (f (some fields)) (g (some fields)))
    (hnone : Agree (f none) (g none)) : Agree (s.objectAt? v >>= f) (t.objectAt? v >>= g) := by
  refine (agree_objectAt? h hs ht hv).bind fun o ho _ => ?_
  rcases objectAt?_eq_ok h hs hv ho with ⟨fields, rfl, hd⟩ | ⟨rfl, -⟩
  · exact hsome fields hd
  · exact hnone

omit hs ht in
/-- A section that is met is the same in both ways, and its fields are the ones under its key. -/
theorem agree_section {name : String} {f g : Fields → Except ReadFailure α}
    (hm : ∀ v, Fields.get? fields name = some v → Met root .plain v)
    (hfg : Agree (f (fieldsUnder fields name)) (g (fieldsUnder fields name))) :
    Agree (s.section? fields name >>= fun v => fieldsOf v >>= f)
      (t.section? fields name >>= fun v => fieldsOf v >>= g) := by
  refine .bind_ok (section?_of_met h s hm) (section?_of_met h t hm) ?_
  refine (Agree.refl _).bind fun inner hinner _ => ?_
  rw [fieldsOf_sectionAt hinner]
  exact hfg

omit hs ht in
/-- A list that is met is the same in both ways, and so are its members. -/
theorem agree_list {name : String} {f g : List Value → Except ReadFailure α}
    (hm : ∀ v, Fields.get? fields name = some v → Met root .plain v)
    (hfg : ∀ members, membersOf (listAt fields name) = .ok members →
      Agree (f members) (g members)) :
    Agree (s.listField fields name >>= fun v => membersOf v >>= f)
      (t.listField fields name >>= fun v => membersOf v >>= g) :=
  .bind_ok (listField_of_met h s hm) (listField_of_met h t hm)
    ((Agree.refl _).bind fun members hmembers _ => hfg members hmembers)

omit hs ht in
theorem agree_schemaOfFields {read read' : Value → Except ReadFailure Schema}
    (hparts : PartsMet root .schema fields)
    (hread : ∀ u, Met root .schema u → Agree (read u) (read' u)) :
    Agree (s.schemaOfFields read fields) (t.schemaOfFields read' fields) := by
  have hshown : ∀ v ∈ shownType fields, Met root .text v := by
    intro v hv
    refine hparts .text v (List.mem_append_left _ (List.mem_map_of_mem ?_))
    exact Option.mem_toList.mpr hv
  unfold schemaOfFields
  rw [typeWord?_of_met h s hshown, typeWord?_of_met h t hshown]
  refine (Agree.refl _).bind fun word hword _ => ?_
  have hinner : ∀ role' u, (role', u) ∈ innerSchemas word fields → Met root role' u := by
    intro role' u hu
    refine hparts role' u (List.mem_append_right _ ?_)
    rw [hword]
    exact hu
  unfold innerSchemas at hinner
  split
  · next harray =>
    rw [if_pos harray] at hinner
    split
    · exact .refl _
    · exact .refl _
    · next v _ hv =>
      exact (hread v (hinner _ _ (mem_under (by simp) hv))).bind fun schema _ _ => .refl _
  · next harray =>
    rw [if_neg harray] at hinner
    split
    · next hobject =>
      rw [if_pos hobject] at hinner
      have hsection : ∀ v, Fields.get? fields "properties" = some v → Met root .plain v :=
        fun v hv => hinner _ _ (List.mem_append_left _ (mem_under (by simp) hv))
      refine agree_section h hsection ?_
      refine (agree_schemasOf fun p hp => ?_).bind fun schemas _ _ => .refl _
      exact hread p.2 (hinner _ _ (List.mem_append_right _ (mem_valuesOf hp)))
    · exact .refl _

omit hs ht in
/-- A reference to a component is an object in both ways, and keeps its name. -/
theorem schemaUpTo_kept {spec : Spec} (hroot : spec.root = root) (hm : Met root .schema v)
    {name : String} (hname : v.link?.bind componentName? = some name) {schema : Schema}
    (hread : spec.schemaUpTo (n + 1) v = .ok schema) :
    schema = { kind := .reference, refName := some name } := by
  obtain ⟨w, hw, hread⟩ := except_bind_eq_ok.mp hread
  have hv : ∃ fields, v = .object fields := by
    cases v with
    | object fields => exact ⟨fields, rfl⟩
    | scalar s => cases hname
    | array items => cases hname
  obtain ⟨fields, rfl⟩ := (object_of_look h hroot ⟨.schema, rfl, hm⟩ hw).mp hv
  simp only [hname] at hread
  exact (Except.ok.inj hread).symm

theorem agree_schemaUpTo (n : ℕ) (hm : Met root .schema v) :
    Agree (s.schemaUpTo n v) (t.schemaUpTo n v) := by
  induction n generalizing v with
  | zero => intro a b ha; cases ha
  | succ n ih =>
    -- a component is kept by name in both ways, so nothing behind it has to agree
    cases hname : v.link?.bind componentName? with
    | some name =>
      intro a b ha hb
      rw [schemaUpTo_kept h hs hm hname ha, schemaUpTo_kept h ht hm hname hb]
    | none =>
      rw [schemaUpTo_succ, schemaUpTo_succ, schemaWith_eq s _ hname, schemaWith_eq t _ hname]
      refine agree_object h hs ht ⟨.schema, rfl, hm⟩ (fun fields hd => ?_) (.refl _)
      exact agree_schemaOfFields h (hm.partsMet (fun hk => hk.2 hname) hd) fun u hu => ih hu

theorem agree_schema (hm : Met root .schema v) : Agree (s.schema v) (t.schema v) := by
  have hbound : s.schemaBound v = t.schemaBound v := by rw [schemaBound, schemaBound, hs, ht]
  rw [schema, schema, hbound]
  exact agree_schemaUpTo h hs ht _ hm

theorem agree_mediaSchema (hm : Met root .plain v)
    (hschema : ∀ media, v = .object media → ∀ u, Fields.get? media "schema" = some u →
      Met root .schema u) : Agree (s.mediaSchema v) (t.mediaSchema v) := by
  unfold mediaSchema
  refine .bind_ok (look_of_met h s hm rfl) (look_of_met h t hm rfl) ?_
  cases v with
  | scalar k => exact .refl _
  | array items => exact .refl _
  | object media =>
    cases hget : Fields.get? media "schema" with
    | none => simp only [hget]; exact .refl _
    | some u => simp only [hget]; exact agree_schema h hs ht (hschema media rfl u hget)

theorem agree_content (hparts : PartsMet root .body fields) :
    Agree (s.content fields) (t.content fields) := by
  unfold content
  refine agree_section h hparts.body_plain ?_
  refine (agree_schemasOf fun p hp => ?_).bind fun schemas _ _ => .refl _
  exact agree_mediaSchema h hs ht (hparts.body_media p hp) (hparts.body_schema p hp)

theorem agree_contentOf? (hm : Met root .body v) : Agree (s.contentOf? v) (t.contentOf? v) := by
  rw [contentOf?_eq, contentOf?_eq]
  refine agree_object h hs ht ⟨.body, rfl, hm⟩ (fun fields hd => ?_) (.refl _)
  have hparts := hm.partsMet (fun hk => by cases hk.1) hd
  exact (agree_content h hs ht hparts).bind fun content _ _ => .refl _

theorem agree_answersOf (hm : ∀ p ∈ fields, Met root .body p.2) :
    Agree (s.answersOf fields) (t.answersOf fields) := by
  induction fields with
  | nil => exact .refl _
  | cons p rest ih =>
    obtain ⟨hfirst, hrest⟩ := List.forall_mem_cons.mp hm
    exact (agree_contentOf? h hs ht hfirst).bind fun content _ _ =>
      (ih hrest).bind fun answers _ _ => .refl _

omit hs ht in
theorem agree_displayField {name default : String}
    (hm : ∀ v, Fields.get? fields name = some v → Met root .text v) :
    Agree (s.displayField fields name default) (t.displayField fields name default) := by
  unfold displayField
  split
  · exact .refl _
  · next v hv =>
    rw [display_of_met h s (hm v hv), display_of_met h t (hm v hv)]
    exact .refl _

theorem agree_parameterOf? (hparts : PartsMet root .parameter fields) :
    Agree (s.parameterOf? fields) (t.parameterOf? fields) := by
  unfold parameterOf?
  split
  · exact .refl _
  · next name hname =>
    have hmet : ∀ role' u, (role', u) ∈ under .text fields ["name", "in"] ++
        under .schema fields ["schema"] → Met root role' u := by
      intro role' u hu
      refine hparts role' u ?_
      simpa only [parts, hname, Option.isSome_some, if_true] using hu
    have htext : ∀ key ∈ ["name", "in"], ∀ v, Fields.get? fields key = some v → Met root .text v :=
      fun key hkey v hv => hmet _ _ (List.mem_append_left _ (mem_under hkey hv))
    have hshown := htext "name" (by simp) name hname
    refine .bind_ok (display_of_met h s hshown) (display_of_met h t hshown) ?_
    refine (agree_displayField h (htext "in" (by simp))).bind fun location _ _ => ?_
    split
    · exact .refl _
    · next v hv =>
      have hschema := hmet _ _ (List.mem_append_right _ (mem_under (by simp) hv))
      exact (agree_schema h hs ht hschema).bind fun schema _ _ => .refl _

theorem agree_parameter? (hv : Met root .parameter v ∨ ∃ k, v = .scalar k) :
    Agree (s.parameter? v).outcome (t.parameter? v).outcome := by
  rw [outcome_parameter?, outcome_parameter?]
  rcases hv with hm | ⟨k, rfl⟩
  · refine agree_object h hs ht ⟨.parameter, rfl, hm⟩ (fun fields hd => ?_) (.refl _)
    exact agree_parameterOf? h hs ht (hm.partsMet (fun hk => by cases hk.1) hd)
  · exact .bind_ok (objectAt?_scalar s k) (objectAt?_scalar t k) (.refl (.ok none))

theorem agree_parametersOf {values : List Value}
    (hv : ∀ v ∈ values, Met root .parameter v ∨ ∃ k, v = .scalar k) :
    Agree (s.parametersOf values).outcome (t.parametersOf values).outcome := by
  induction values with
  | nil => exact .refl _
  | cons v rest ih =>
    obtain ⟨hfirst, hrest⟩ := List.forall_mem_cons.mp hv
    simp only [parametersOf, Traced.outcome_bind]
    refine (agree_parameter? h hs ht hfirst).bind fun o _ _ => ?_
    cases o with
    | none => exact ih hrest
    | some p =>
      simp only [Traced.outcome_bind]
      exact (ih hrest).bind fun others _ _ => .refl _

theorem agree_parameters {shared own : List Value}
    (hshared : ∀ v ∈ shared, Met root .parameter v ∨ ∃ k, v = .scalar k)
    (hown : ∀ v ∈ own, Met root .parameter v ∨ ∃ k, v = .scalar k) :
    Agree (s.parameters shared own).outcome (t.parameters shared own).outcome := by
  simp only [parameters, Traced.outcome_bind, Traced.outcome_pure]
  exact (agree_parametersOf h hs ht hown).bind fun own _ _ =>
    (agree_parametersOf h hs ht hshared).bind fun shared _ _ => .refl _

theorem agree_objectFields (hv : Referring root v) :
    Agree (s.objectFields v) (t.objectFields v) := by
  rw [objectFields_eq, objectFields_eq]
  exact (agree_objectAt? h hs ht hv).bind fun o _ _ => .refl _

omit h hs ht in
theorem partsMet_nil (hrole : role ≠ .schema) : PartsMet root role [] := by
  intro role' u hu
  cases role with
  | schema => exact absurd rfl hrole
  | _ => cases hu

omit ht in
/-- The fields of an object are those of what a value denotes; other values have none. -/
theorem partsMet_of_objectFields (hm : Met root role v) (hr : role.mayRefer = true)
    (hrole : role ≠ .schema) (hfields : s.objectFields v = .ok fields) :
    PartsMet root role fields := by
  rw [objectFields_eq] at hfields
  obtain ⟨o, ho, hfields⟩ := except_bind_eq_ok.mp hfields
  obtain rfl := Except.ok.inj hfields
  rcases objectAt?_eq_ok h hs ⟨role, hr, hm⟩ ho with ⟨inner, rfl, hd⟩ | ⟨rfl, -⟩
  · exact hm.partsMet (fun hk => hrole hk.1) hd
  · exact partsMet_nil hrole

theorem agree_requestBody? (hparts : PartsMet root .operation fields) :
    Agree (s.requestBody? fields) (t.requestBody? fields) := by
  unfold requestBody?
  split
  · exact .refl _
  · next body hbody => exact agree_contentOf? h hs ht (hparts.operation_body body hbody)

theorem agree_answeredOperation {verb : Verb} {parameters : List Parameter}
    {body : Option Content} (hparts : PartsMet root .operation fields) :
    Agree (s.answeredOperation verb fields parameters body)
      (t.answeredOperation verb fields parameters body) := by
  unfold answeredOperation
  refine agree_section h (hparts.operation_plain (by simp)) ?_
  exact (agree_answersOf h hs ht hparts.operation_answer).bind fun answers _ _ => .refl _

theorem agree_operation {verb : Verb} {shared : Value} (hm : Met root .operation v)
    (hshared : ListsParameters root shared) :
    Agree (s.operation verb shared v).outcome (t.operation verb shared v).outcome := by
  rw [outcome_operation, outcome_operation]
  refine (agree_objectFields h hs ht ⟨.operation, rfl, hm⟩).bind fun fields hfields _ => ?_
  have hparts := partsMet_of_objectFields h hs hm rfl (by decide) hfields
  refine (Agree.refl _).bind fun members hmembers _ => ?_
  refine agree_list h (hparts.operation_plain (by simp)) fun own hown => ?_
  have hown := listsParameters_listAt hparts.operation_parameter own hown
  refine (agree_parameters h hs ht (hshared members hmembers) hown).bind fun parameters _ _ => ?_
  refine (agree_requestBody? h hs ht hparts).bind fun body _ _ => ?_
  exact agree_answeredOperation h hs ht hparts

theorem agree_operationsOf {shared : Value}
    (hm : ∀ p ∈ operationFields fields, Met root .operation p.2)
    (hshared : operationFields fields ≠ [] → ListsParameters root shared) :
    Agree (s.operationsOf shared fields).outcome (t.operationsOf shared fields).outcome := by
  induction fields with
  | nil => exact .refl _
  | cons p rest ih =>
    obtain ⟨key, v⟩ := p
    unfold operationFields at hm hshared ih
    rw [operationsOf, operationsOf]
    -- the shared parameters matter as soon as one field is an operation
    cases hverb : Verb.ofText? key.display with
    | none =>
      rw [List.filter_cons_of_neg (by simp [hverb])] at hm hshared
      exact ih hm hshared
    | some verb =>
      rw [List.filter_cons_of_pos (by simp [hverb])] at hm hshared
      obtain ⟨hfirst, hrest⟩ := List.forall_mem_cons.mp hm
      have hlist := hshared (by simp)
      simp only [Traced.outcome_bind]
      refine (agree_operation h hs ht hfirst hlist).bind fun operation _ _ => ?_
      exact (ih hrest fun _ => hlist).bind fun others _ _ => .refl _

theorem agree_route {path : String} (hm : Met root .pathItem v) :
    Agree (s.route path v).outcome (t.route path v).outcome := by
  simp only [route, Traced.outcome_bind, Traced.outcome_lift]
  refine (agree_objectFields h hs ht ⟨.pathItem, rfl, hm⟩).bind fun fields hfields _ => ?_
  have hparts := partsMet_of_objectFields h hs hm rfl (by decide) hfields
  have hplain := hparts.pathItem_plain
  refine .bind_ok (listField_of_met h s hplain) (listField_of_met h t hplain) ?_
  exact (agree_operationsOf h hs ht hparts.pathItem_operation fun hne =>
    listsParameters_listAt (hparts.pathItem_parameter hne)).bind fun operations _ _ => .refl _

theorem agree_routesOf (hm : ∀ p ∈ fields, Met root .pathItem p.2) :
    Agree (s.routesOf fields).outcome (t.routesOf fields).outcome := by
  induction fields with
  | nil => exact .refl _
  | cons p rest ih =>
    obtain ⟨hfirst, hrest⟩ := List.forall_mem_cons.mp hm
    simp only [routesOf, Traced.outcome_bind]
    exact (agree_route h hs ht hfirst).bind fun route _ _ =>
      (ih hrest).bind fun others _ _ => .refl _

omit ht in
theorem rootFields_eq_ok (hfields : s.rootFields = .ok fields) : root = .object fields := by
  unfold rootFields at hfields
  rw [hs, look_of_met h s .root rfl] at hfields
  cases root with
  | object inner => exact congrArg Value.object (Except.ok.inj hfields)
  | scalar k => cases hfields
  | array items => cases hfields

theorem agree_document : Agree s.document.outcome t.document.outcome := by
  simp only [document, Traced.outcome_bind, Traced.outcome_lift]
  have hroot : Agree s.rootFields t.rootFields := fun a b ha hb =>
    Value.object.inj ((rootFields_eq_ok h hs ha).symm.trans (rootFields_eq_ok h ht hb))
  refine hroot.bind fun fields hfields _ => ?_
  obtain rfl := rootFields_eq_ok h hs hfields
  have hparts : PartsMet (.object fields) .document fields :=
    Met.root.partsMet (fun hk => by cases hk.1) (.itself (h.link?_eq_none .root rfl))
  simp only [PartsMet, parts, List.mem_append] at hparts
  have hplain : ∀ name ∈ ["info", "components", "paths"], ∀ v,
      Fields.get? fields name = some v → Met (.object fields) .plain v :=
    fun name hname v hv => hparts _ _ (.inl (.inl (.inl (.inl (mem_under hname hv)))))
  have htext : ∀ name ∈ ["title", "version"], ∀ v,
      Fields.get? (fieldsUnder fields "info") name = some v → Met (.object fields) .text v :=
    fun name hname v hv => hparts _ _ (.inl (.inl (.inl (.inr (mem_under hname hv)))))
  have hinfo := hplain "info" (by simp)
  have hschemas : ∀ v, Fields.get? (fieldsUnder fields "components") "schemas" = some v →
      Met (.object fields) .plain v :=
    fun v hv => hparts _ _ (.inl (.inl (.inr (mem_under (by simp) hv))))
  refine .bind_ok (section?_of_met h s hinfo) (section?_of_met h t hinfo) ?_
  refine agree_section h (hplain "components" (by simp)) ?_
  refine .bind_ok (section?_of_met h s hschemas) (section?_of_met h t hschemas) ?_
  refine (Agree.refl _).bind fun info hinfo _ => ?_
  obtain rfl := fieldsOf_sectionAt hinfo
  refine (agree_displayField h (htext "title" (by simp))).bind fun title _ _ => ?_
  refine (agree_displayField h (htext "version" (by simp))).bind fun version _ _ => ?_
  refine (Agree.refl _).bind fun schemas hschemas _ => ?_
  obtain rfl := fieldsOf_sectionAt hschemas
  refine (agree_schemasOf fun p hp => agree_schema h hs ht ?_).bind fun schemas _ _ => ?_
  · exact hparts _ _ (.inl (.inr (mem_valuesOf hp)))
  refine agree_section h (hplain "paths" (by simp)) ?_
  refine (agree_routesOf h hs ht fun p hp => ?_).bind fun routes _ _ => .refl _
  exact hparts _ _ (.inr (mem_valuesOf hp))

end Both

/-- A well linked specification and its links in place describe one document, whenever both are
read. -/
theorem document_linkedFrom {source : String} {linked : Spec} {d d' : Document}
    (h : WellLinked root) (hlinked : linkedFrom root source = .ok linked)
    (hplain : ({ root, source } : Spec).document.outcome = .ok d)
    (hdocument : linked.document.outcome = .ok d') : d = d' := by
  have hroot : linked.root = root := by
    unfold linkedFrom at hlinked
    split at hlinked
    · cases hlinked
    · rw [← Except.ok.inj hlinked]
  exact agree_document h rfl hroot d d' hplain hdocument

/-- A specification with a reference to a parameter, in which a schema refers to a component. -/
def petSpec : Value :=
  .object [(.text "paths", .object [(.text "/pets", .object [(.text "get", .object [
      (.text "parameters", .array [
        .object [(.text "$ref", .text "#/components/parameters/pet")]])])])]),
    (.text "components", .object [
      (.text "parameters", .object [(.text "pet", .object [
        (.text "name", .text "pet"),
        (.text "schema", .object [(.text "$ref", .text "#/components/schemas/Pet")])])]),
      (.text "schemas", .object [(.text "Pet", .object [(.text "type", .text "object")])])])]

theorem document_linkedFrom_petSpec : WellLinked petSpec ∧
    ∃ linked d, linkedFrom petSpec "pets.json" = .ok linked ∧
      ({ root := petSpec, source := "pets.json" } : Spec).document.outcome = .ok d ∧
      linked.document.outcome = .ok d := by
  have hclosed : IsClosed petSpec 2 (metUpTo petSpec 2 5) := by decide +kernel
  have hwell : WellLinked petSpec := hclosed.wellLinked (by decide +kernel)
  let plain : Spec := { root := petSpec, source := "pets.json" }
  let linked : Spec := { plain with linkage := .linked }
  have hlinked : linkedFrom petSpec "pets.json" = .ok linked := by
    rw [linkedFrom, show Link.early? petSpec = none by decide +kernel]
  obtain ⟨d, hd⟩ : ∃ d, plain.document.outcome = .ok d :=
    except_isOk_iff.mp (by decide +kernel)
  obtain ⟨d', hd'⟩ : ∃ d', linked.document.outcome = .ok d' :=
    except_isOk_iff.mp (by decide +kernel)
  obtain rfl := document_linkedFrom hwell hlinked hd hd'
  exact ⟨hwell, linked, d, hlinked, hd, hd'⟩

end Spec

end ApiStubs
