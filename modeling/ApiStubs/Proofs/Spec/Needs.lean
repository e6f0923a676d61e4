import ApiStubs.Proofs.Spec.Unfolding

/-! # What reading needs

To read a part of a specification some things have to be found in it, one after the other, and some
of them are parts that are read themselves. Reading a schema ends with the first need that is not
met; if none fails and not all are met either, it is endless.
-/

namespace ApiStubs

namespace Spec

/-- What has to be found to go on reading, and the parts that are read. An object may be found
behind references; the entries, the members and the note under a key belong to what stands there. -/
inductive Need
  | root
  | look (v : Value)
  | object (v : Value)
  | typeWord (fields : Fields)
  | shown (v : Value)
  | present (fields : Fields) (name : String)
  | entries (fields : Fields) (name : String)
  | list (fields : Fields) (name : String)
  | members (v : Value)
  | listed (fields : Fields) (name : String)
  | note (fields : Fields) (name : String)
  | schema (v : Value)
  | parameter (v : Value)
  | media (v : Value)
  | body (v : Value)
  | operation (shared v : Value)
  | route (v : Value)
  | document

/-- The fields of the object under a key. -/
def entriesUnder (spec : Spec) (fields : Fields) (name : String) : Except ReadFailure Fields := do
  fieldsOf (← spec.section? fields name)

/-- The members of the list under a key. -/
def membersUnder (spec : Spec) (fields : Fields) (name : String) :
    Except ReadFailure (List Value) := do
  membersOf (← spec.listField fields name)

/-- The failure that a computation ends with, if it does. -/
def failureOf {α : Type} : Except ReadFailure α → Option ReadFailure
  | .ok _ => none
  | .error e => some e

/-- Why something cannot be found. Parts that are read have no fault of their own. -/
def Need.fault? (spec : Spec) : Need → Option ReadFailure
  | .root => failureOf spec.rootFields
  | .look v => failureOf (spec.look v)
  | .object v => failureOf (spec.objectAt? v)
  | .typeWord fields => failureOf (spec.typeWord? fields)
  | .shown v => failureOf (spec.display v)
  | .present fields name => failureOf (spec.section? fields name)
  | .entries fields name => failureOf (spec.entriesUnder fields name)
  | .list fields name => failureOf (spec.listField fields name)
  | .members v => failureOf (membersOf v)
  | .listed fields name => failureOf (spec.membersUnder fields name)
  | .note fields name => failureOf (textField? fields name)
  | .schema _ | .parameter _ | .media _ | .body _ | .operation .. | .route _ | .document => none

/-- The needs that show once something is known. -/
def after {α : Type} (x : Except ReadFailure α) (needs : α → List Need) : List Need :=
  match x with
  | .ok a => needs a
  | .error _ => []

/-- A need for the value under a key, if there is one. -/
def needAt (need : Value → Need) (fields : Fields) (name : String) : List Need :=
  (Fields.get? fields name).toList.map need

/-- A need for every value of some fields. -/
def needEach (need : Value → Need) (fields : Fields) : List Need :=
  fields.map fun p => need p.2

namespace Need

variable (spec : Spec)

/-- The needs of a schema of some type. -/
def ofTyped (fields : Fields) (word : Option String) : List Need :=
  if word = some "array" then
    match Fields.get? fields "items" with
    | none | some (.scalar .null) => []
    | some v => [.schema v]
  else if word = some "object" ∨ (word = none ∧ (Fields.get? fields "properties").isSome) then
    .entries fields "properties" ::
      after (spec.entriesUnder fields "properties") (needEach .schema)
  else
    match word.bind SchemaKind.ofScalarType? with
    | some _ => [.note fields "format"]
    | none => []

/-- The needs of a schema. A reference to a component is only looked at. -/
def ofSchema (v : Value) : List Need :=
  match v.link?.bind componentName? with
  | some _ => [.look v]
  | none => .object v :: after (spec.objectAt? v) fun o => o.toList.flatMap fun fields =>
      .typeWord fields :: after (spec.typeWord? fields) (ofTyped spec fields)

def ofParameter (fields : Fields) : List Need :=
  (Fields.get? fields "name").toList.flatMap fun name =>
    .shown name :: (needAt .shown fields "in" ++ needAt .schema fields "schema")

def ofMedia : Value → List Need
  | .object fields => needAt .schema fields "schema"
  | _ => []

def ofBody (fields : Fields) : List Need :=
  .entries fields "content" :: after (spec.entriesUnder fields "content") (needEach .media)

/-- The needs of an operation: its own parameters are read before the shared ones. -/
def ofOperation (shared : Value) (fields : Fields) : List Need :=
  .members shared :: after (membersOf shared) fun shared =>
    .listed fields "parameters" :: after (spec.membersUnder fields "parameters") fun own =>
      own.map .parameter ++ (shared.map .parameter ++ (needAt .body fields "requestBody" ++
        .entries fields "responses" :: after (spec.entriesUnder fields "responses") fun answers =>
          needEach .body answers ++ [.note fields "summary"]))

def ofRoute (fields : Fields) : List Need :=
  .list fields "parameters" :: after (spec.listField fields "parameters") fun shared =>
    needEach (.operation shared) (operationFields fields)

/-- The needs of a document. The section of the title is looked for first and opened later. -/
def ofDocument (root : Fields) : List Need :=
  .present root "info" :: .entries root "components" ::
    after (spec.entriesUnder root "components") fun components =>
      .present components "schemas" :: .entries root "info" ::
        after (spec.entriesUnder root "info") fun info =>
          needAt .shown info "title" ++ (needAt .shown info "version" ++
            .entries components "schemas" ::
              after (spec.entriesUnder components "schemas") fun schemas =>
                needEach .schema schemas ++ .entries root "paths" ::
                  after (spec.entriesUnder root "paths") (needEach .route))

/-- What a part needs, in the order in which it is read. -/
def needs : Need → List Need
  | .schema v => ofSchema spec v
  | .parameter v => .object v :: after (spec.objectAt? v) fun o => o.toList.flatMap ofParameter
  | .media v => .look v :: after (spec.look v) ofMedia
  | .body v => .object v :: after (spec.objectAt? v) fun o => o.toList.flatMap (ofBody spec)
  | .operation shared v => .object v ::
      after (spec.objectAt? v) fun o => ofOperation spec shared (o.getD [])
  | .route v => .object v :: after (spec.objectAt? v) fun o => ofRoute spec (o.getD [])
  | .document => .root :: after spec.rootFields (ofDocument spec)
  | .root | .look _ | .object _ | .typeWord _ | .shown _ | .present .. | .entries .. | .list ..
  | .members _ | .listed .. | .note .. => []

end Need

/-- What is needed is found all the way down. -/
inductive Holds (spec : Spec) : Need → Prop where
  | all {d : Need} : d.fault? spec = none → (∀ c ∈ d.needs spec, Holds spec c) → Holds spec d

/-- The first need that is not met, all the way down, fails with a failure. -/
inductive Fails (spec : Spec) : Need → ReadFailure → Prop where
  | here {d : Need} {e : ReadFailure} : d.fault? spec = some e → Fails spec d e
  | inside {d c : Need} {before rest : List Need} {e : ReadFailure} :
      d.needs spec = before ++ c :: rest → (∀ b ∈ before, Holds spec b) → Fails spec c e →
      Fails spec d e

variable {spec : Spec} {d c : Need} {ds ds' before before' rest rest' : List Need}
  {e e' : ReadFailure} {α β : Type}

section First

theorem needs_of_fault? (h : d.fault? spec = some e) : d.needs spec = [] := by
  cases d with
  | schema | parameter | media | body | operation | route | document => cases h
  | _ => rfl

theorem needs_ne_nil (h : d.needs spec = before ++ c :: rest) : d.needs spec ≠ [] :=
  h ▸ List.append_ne_nil_of_right_ne_nil _ (List.cons_ne_nil _ _)

theorem mem_needs (h : d.needs spec = before ++ c :: rest) : c ∈ d.needs spec :=
  h ▸ List.mem_append_right _ List.mem_cons_self

theorem Holds.not_fails (h : Holds spec d) : ¬ Fails spec d e := by
  induction h with
  | @all d hfault hneeds ih =>
    intro hfails
    cases hfails with
    | here he => rw [hfault] at he; cases he
    | inside hsplit _ hc => exact ih _ (mem_needs hsplit) hc

/-- Two ways to cut a list behind things of one kind and before another thing are the same. -/
theorem eq_of_cuts {P : Need → Prop} {c c' : Need}
    (h : before ++ c :: rest = before' ++ c' :: rest') (hbefore : ∀ b ∈ before, P b)
    (hbefore' : ∀ b ∈ before', P b) (hc : ¬ P c) (hc' : ¬ P c') : c = c' := by
  induction before generalizing before' with
  | nil =>
    cases before' with
    | nil => exact (List.cons.inj h).1
    | cons b before' =>
      obtain ⟨rfl, -⟩ := List.cons.inj h
      exact absurd (hbefore' c List.mem_cons_self) hc
  | cons b before ih =>
    cases before' with
    | nil =>
      obtain ⟨rfl, -⟩ := List.cons.inj h
      exact absurd (hbefore b List.mem_cons_self) hc'
    | cons b' before' =>
      exact ih (List.cons.inj h).2 (fun x hx => hbefore x (List.mem_cons_of_mem _ hx))
        fun x hx => hbefore' x (List.mem_cons_of_mem _ hx)

theorem Fails.not_holds (h : Fails spec d e) : ¬ Holds spec d := fun hd => hd.not_fails h

theorem Fails.unique (h : Fails spec d e) (h' : Fails spec d e') : e = e' := by
  induction h with
  | here he =>
    cases h' with
    | here he' => exact Option.some.inj (he.symm.trans he')
    | inside hsplit _ _ => exact absurd (needs_of_fault? he) (needs_ne_nil hsplit)
  | inside hsplit hbefore hc ih =>
    cases h' with
    | here he' => exact absurd (needs_of_fault? he') (needs_ne_nil hsplit)
    | inside hsplit' hbefore' hc' =>
      obtain rfl := eq_of_cuts (hsplit.symm.trans hsplit') hbefore hbefore' hc.not_holds
        hc'.not_holds
      exact ih hc'

end First

section Settling

/-- Of some needs the first that does not hold fails with a failure. -/
def FirstFails (R : Need → Prop) (E : Need → ReadFailure → Prop) (ds : List Need)
    (e : ReadFailure) : Prop :=
  ∃ before d rest, ds = before ++ d :: rest ∧ (∀ b ∈ before, R b) ∧ E d e

/-- A computation comes to a result where all needs hold, and ends with the failure of the first
need that fails. -/
structure Settles (R : Need → Prop) (E : Need → ReadFailure → Prop) (ds : List Need)
    (x : Except ReadFailure α) : Prop where
  ok : ∀ a, x = .ok a → ∀ d ∈ ds, R d
  error : ∀ e, x = .error e → FirstFails R E ds e

/-- Things that are found or not are judged by that alone. -/
structure Judges (spec : Spec) (R : Need → Prop) (E : Need → ReadFailure → Prop) : Prop where
  holds : ∀ d, d.fault? spec = none → d.needs spec = [] → R d
  fails : ∀ d e, d.fault? spec = some e → E d e

variable {R : Need → Prop} {E : Need → ReadFailure → Prop} {x : Except ReadFailure α}

namespace Settles

theorem pure (a : α) : Settles R E [] (.ok a : Except ReadFailure α) := by
  constructor
  · intro b _ d hd
    cases hd
  · intro e h
    cases h

theorem ends (hx : Settles R E [d] x) (he : x = .error e) : E d e := by
  obtain ⟨before, d', rest, hsplit, -, hd⟩ := hx.error e he
  have hmem : d' ∈ [d] := hsplit ▸ List.mem_append_right _ List.mem_cons_self
  rwa [List.mem_singleton.mp hmem] at hd

theorem of_judged (hR : ∀ a, x = .ok a → R d) (hE : ∀ e, x = .error e → E d e) :
    Settles R E [d] x := by
  constructor
  · intro a ha d' hd'
    rw [List.mem_singleton.mp hd']
    exact hR a ha
  · intro e he
    exact ⟨[], d, [], rfl, List.forall_mem_nil _, hE e he⟩

theorem bind {f : α → Except ReadFailure β} (hx : Settles R E ds x)
    (hf : ∀ a, x = .ok a → Settles R E ds' (f a)) : Settles R E (ds ++ ds') (x >>= f) := by
  constructor
  · intro b hb d hd
    obtain ⟨a, ha, hb⟩ := except_bind_eq_ok.mp hb
    rcases List.mem_append.mp hd with hd | hd
    · exact hx.ok a ha d hd
    · exact (hf a ha).ok b hb d hd
  · intro e he
    rcases except_bind_eq_error.mp he with he | ⟨a, ha, he⟩
    · obtain ⟨before, d, rest, rfl, hbefore, hd⟩ := hx.error e he
      exact ⟨before, d, rest ++ ds', by simp, hbefore, hd⟩
    · obtain ⟨before, d, rest, rfl, hbefore, hd⟩ := (hf a ha).error e he
      refine ⟨ds ++ before, d, rest, by simp, fun b hb => ?_, hd⟩
      rcases List.mem_append.mp hb with hb | hb
      · exact hx.ok a ha b hb
      · exact hbefore b hb

/-- The needs that show after a step are those of what follows it. -/
theorem bind_after {f : α → Except ReadFailure β} {needs : α → List Need} (hx : Settles R E ds x)
    (hf : ∀ a, x = .ok a → Settles R E (needs a) (f a)) :
    Settles R E (ds ++ after x needs) (x >>= f) := by
  refine hx.bind fun a ha => ?_
  rw [ha]
  exact hf a ha

theorem bind_nil {f : α → Except ReadFailure β} (hx : Settles R E ds x)
    (hf : ∀ a, Settles R E [] (f a)) : Settles R E ds (x >>= f) := by
  have h := hx.bind fun a _ => hf a
  rwa [List.append_nil] at h

theorem map (f : α → β) (hx : Settles R E ds x) : Settles R E ds (x >>= fun a => .ok (f a)) :=
  hx.bind_nil fun a => pure (f a)

theorem leaf (hj : Judges spec R E) (hd : d.fault? spec = failureOf x) (hn : d.needs spec = []) :
    Settles R E [d] x := by
  apply of_judged
  · rintro a rfl
    exact hj.holds d hd hn
  · rintro e rfl
    exact hj.fails d e hd

/-- Something is looked for, and what follows has the needs that show then. -/
theorem next {f : α → Except ReadFailure β} {needs : α → List Need} (hj : Judges spec R E)
    (hd : d.fault? spec = failureOf x) (hn : d.needs spec = [])
    (hf : ∀ a, x = .ok a → Settles R E (needs a) (f a)) :
    Settles R E (d :: after x needs) (x >>= f) :=
  (leaf hj hd hn).bind_after hf

theorem entries {fields : Fields} {name : String} {f : Fields → Except ReadFailure β}
    {needs : Fields → List Need} (hj : Judges spec R E)
    (hf : ∀ inner, spec.entriesUnder fields name = .ok inner →
      Settles R E (needs inner) (f inner)) :
    Settles R E (.entries fields name :: after (spec.entriesUnder fields name) needs)
      (spec.section? fields name >>= fun v => fieldsOf v >>= f) := by
  have h := Settles.next (d := .entries fields name) hj rfl rfl hf
  unfold entriesUnder at h ⊢
  rwa [bind_assoc] at h

theorem listed {fields : Fields} {name : String} {f : List Value → Except ReadFailure β}
    {needs : List Value → List Need} (hj : Judges spec R E)
    (hf : ∀ members, spec.membersUnder fields name = .ok members →
      Settles R E (needs members) (f members)) :
    Settles R E (.listed fields name :: after (spec.membersUnder fields name) needs)
      (spec.listField fields name >>= fun v => membersOf v >>= f) := by
  have h := Settles.next (d := .listed fields name) hj rfl rfl hf
  unfold membersUnder at h ⊢
  rwa [bind_assoc] at h

/-- What settles the needs of a part settles the part. -/
theorem part (hx : Settles R E (d.needs spec) x)
    (hR : (∀ c ∈ d.needs spec, R c) → R d)
    (hE : ∀ e, FirstFails R E (d.needs spec) e → E d e) : Settles R E [d] x :=
  of_judged (fun a ha => hR (hx.ok a ha)) fun e he => hE e (hx.error e he)

end Settles

section Schema

variable (hj : Judges spec R E) {fields : Fields} {v : Value}
  {read : Value → Except ReadFailure Schema}

theorem settles_schemasOf {need : Value → Need} (hread : ∀ u, Settles R E [need u] (read u))
    (fields : Fields) : Settles R E (needEach need fields) (schemasOf read fields) := by
  induction fields with
  | nil => exact .pure _
  | cons p rest ih => exact (hread p.2).bind fun s _ => ih.map _

include hj in
theorem settles_schemaOfFields (hread : ∀ u, Settles R E [.schema u] (read u)) (fields : Fields) :
    Settles R E (.typeWord fields :: after (spec.typeWord? fields) (Need.ofTyped spec fields))
      (spec.schemaOfFields read fields) := by
  refine .next hj rfl rfl fun word _ => ?_
  unfold Need.ofTyped
  by_cases harray : word = some "array"
  · rw [if_pos harray, if_pos harray]
    cases Fields.get? fields "items" with
    | none => exact .pure _
    | some v =>
      cases v with
      | scalar s =>
        cases s with
        | null => exact .pure _
        | _ => exact (hread _).map _
      | array items => exact (hread _).map _
      | object inner => exact (hread _).map _
  · rw [if_neg harray, if_neg harray]
    split
    · exact .entries hj fun properties _ => (settles_schemasOf hread properties).map _
    · cases word.bind SchemaKind.ofScalarType? with
      | some kind => exact (Settles.leaf hj rfl rfl).map _
      | none => exact .pure _

include hj in
theorem settles_schemaWith (hread : ∀ u, Settles R E [.schema u] (read u)) (v : Value) :
    Settles R E (Need.needs spec (.schema v)) (spec.schemaWith read v) := by
  rw [Need.needs, Need.ofSchema]
  cases hname : v.link?.bind componentName? with
  | some name =>
    rw [schemaWith, hname]
    refine (Settles.leaf hj rfl rfl).bind_nil fun w => ?_
    cases w <;> exact .pure _
  | none =>
    rw [schemaWith_eq spec read hname]
    refine .next hj rfl rfl fun o _ => ?_
    cases o with
    | none => exact .pure _
    | some fields =>
      rw [Option.toList_some, List.flatMap_singleton]
      exact settles_schemaOfFields hj hread fields

end Schema

end Settling

section Ending

variable {v : Value} {n : ℕ}

/-- Reading goes on without end where neither everything holds nor anything fails. -/
def Lost (spec : Spec) (d : Need) : Prop :=
  ¬ Holds spec d ∧ ∀ e, ¬ Fails spec d e

/-- How reading a part ends without a result. -/
def Ends (spec : Spec) (d : Need) (e : ReadFailure) : Prop :=
  Fails spec d e ∨ e = .endless ∧ Lost spec d

theorem Holds.leaf (h : d.fault? spec = none) (hn : d.needs spec = []) : Holds spec d :=
  .all h (by rw [hn]; exact List.forall_mem_nil _)

/-- Within a bound reading may also end because it is too deep. -/
theorem settles_schemaUpTo (spec : Spec) (n : ℕ) (v : Value) :
    Settles (Holds spec) (fun d e => Fails spec d e ∨ e = .endless) [.schema v]
      (spec.schemaUpTo n v) := by
  induction n generalizing v with
  | zero =>
    apply Settles.of_judged
    · intro s hs
      cases hs
    · intro e he
      exact .inr (Except.error.inj he).symm
  | succ n ih =>
    have hj : Judges spec (Holds spec) fun d e => Fails spec d e ∨ e = .endless :=
      ⟨fun _ => .leaf, fun _ _ he => .inl (.here he)⟩
    refine (settles_schemaWith hj ih v).part (.all rfl) ?_
    rintro e ⟨before, c, rest, hsplit, hbefore, hc | rfl⟩
    · exact .inl (.inside hsplit hbefore hc)
    · exact .inr rfl

/-- What has come of a need: a schema has been read, or anything else has been found. -/
def Found (spec : Spec) : Need → Prop
  | .schema v => ∃ s, spec.schema v = .ok s
  | d => d.fault? spec = none

def Missed (spec : Spec) : Need → ReadFailure → Prop
  | .schema v, e => spec.schema v = .error e
  | d, e => d.fault? spec = some e

theorem Found.not_missed (h : Found spec d) : ¬ Missed spec d e := by
  intro h'
  cases d with
  | schema v =>
    obtain ⟨s, hs⟩ := h
    cases hs.symm.trans h'
  | _ => cases h.symm.trans h'

theorem Missed.unique (h : Missed spec d e) (h' : Missed spec d e') : e = e' := by
  cases d with
  | schema v => exact Except.error.inj (h.symm.trans h')
  | _ => exact Option.some.inj (h.symm.trans h')

theorem needs_schema_ne_nil : Need.needs spec (.schema v) ≠ [] := by
  rw [Need.needs, Need.ofSchema]
  split <;> exact List.cons_ne_nil _ _

theorem settles_found (spec : Spec) (v : Value) :
    Settles (Found spec) (Missed spec) (Need.needs spec (.schema v)) (spec.schema v) := by
  have hj : Judges spec (Found spec) (Missed spec) := by
    constructor
    · intro d hd hn
      cases d with
      | schema v => exact absurd hn needs_schema_ne_nil
      | _ => exact hd
    · intro d e he
      cases d with
      | schema v => cases he
      | _ => exact he
  rw [schema_eq]
  refine settles_schemaWith hj (fun u => ?_) v
  exact .of_judged (fun s hs => ⟨s, hs⟩) fun e he => he

theorem exists_of_mem_after {x : Except ReadFailure α} {needs : α → List Need}
    (h : c ∈ after x needs) : ∃ a, x = .ok a ∧ c ∈ needs a := by
  cases x with
  | ok a => exact ⟨a, rfl, h⟩
  | error e => cases h

theorem mem_ofTyped {fields : Fields} {word : Option String}
    (h : c ∈ Need.ofTyped spec fields word) : c.needs spec = [] ∨ ∃ u, c = .schema u := by
  unfold Need.ofTyped at h
  split at h
  · split at h
    · cases h
    · cases h
    · exact .inr ⟨_, List.mem_singleton.mp h⟩
  · split at h
    · rcases List.mem_cons.mp h with rfl | h
      · exact .inl rfl
      · obtain ⟨properties, -, h⟩ := exists_of_mem_after h
        obtain ⟨p, -, rfl⟩ := List.mem_map.mp h
        exact .inr ⟨p.2, rfl⟩
    · split at h
      · obtain rfl := List.mem_singleton.mp h
        exact .inl rfl
      · cases h

/-- A schema needs schemas, and things that are found or not. -/
theorem mem_needs_schema (h : c ∈ Need.needs spec (.schema v)) :
    c.needs spec = [] ∨ ∃ u, c = .schema u := by
  rw [Need.needs, Need.ofSchema] at h
  split at h
  · obtain rfl := List.mem_singleton.mp h
    exact .inl rfl
  · rcases List.mem_cons.mp h with rfl | h
    · exact .inl rfl
    · obtain ⟨o, -, h⟩ := exists_of_mem_after h
      obtain ⟨fields, -, h⟩ := List.mem_flatMap.mp h
      rcases List.mem_cons.mp h with rfl | h
      · exact .inl rfl
      · obtain ⟨word, -, h⟩ := exists_of_mem_after h
        exact mem_ofTyped h

theorem found_of_holds (h : Holds spec d) : Found spec d := by
  induction h with
  | @all d hfault _ ih =>
    cases d with
    | schema v =>
      cases hs : spec.schema v with
      | ok s => exact ⟨s, hs⟩
      | error e =>
        obtain ⟨before, c, rest, hsplit, -, hc⟩ := (settles_found spec v).error e hs
        exact absurd hc (ih c (mem_needs hsplit)).not_missed
    | _ => exact hfault

theorem missed_of_fails (h : Fails spec d e) (hd : d.needs spec = [] ∨ ∃ v, d = .schema v) :
    Missed spec d e := by
  induction h with
  | @here d e he =>
    cases d with
    | schema v => cases he
    | _ => exact he
  | @inside d c before rest e hsplit hbefore _ ih =>
    obtain hnil | ⟨v, rfl⟩ := hd
    · exact absurd hnil (needs_ne_nil hsplit)
    · have hmem := mem_needs hsplit
      have hc := ih (mem_needs_schema hmem)
      have hfound : ¬ Found spec c := fun h => h.not_missed hc
      cases hs : spec.schema v with
      | ok s => exact absurd ((settles_found spec v).ok s hs c hmem) hfound
      | error e' =>
        obtain ⟨before', c', rest', hsplit', hbefore', hc'⟩ := (settles_found spec v).error e' hs
        obtain rfl := eq_of_cuts (hsplit.symm.trans hsplit')
          (fun b hb => found_of_holds (hbefore b hb)) hbefore' hfound
          (fun h => h.not_missed hc')
        rw [hc.unique hc']
        exact hs

/-- Reading a schema comes to a result where all its needs hold, and else ends with the first one
that fails, or without end. -/
theorem settles_schema (spec : Spec) (v : Value) :
    Settles (Holds spec) (Ends spec) [.schema v] (spec.schema v) := by
  have hbounded := settles_schemaUpTo spec (spec.schemaBound v) v
  apply Settles.of_judged
  · intro s hs
    exact hbounded.ok s hs _ List.mem_cons_self
  · intro e he
    rcases hbounded.ends he with hd | rfl
    · exact .inl hd
    · by_cases hfails : ∃ e, Fails spec (.schema v) e
      · obtain ⟨e', hfails⟩ := hfails
        have hmissed : spec.schema v = .error e' := missed_of_fails hfails (.inr ⟨v, rfl⟩)
        obtain rfl := Except.error.inj (hmissed.symm.trans he)
        exact .inl hfails
      · refine .inr ⟨rfl, fun hholds => ?_, not_exists.mp hfails⟩
        exact (found_of_holds hholds).not_missed he

theorem judges_holds (spec : Spec) : Judges spec (Holds spec) (Ends spec) :=
  ⟨fun _ => .leaf, fun _ _ he => .inl (.here he)⟩

theorem Ends.not_holds (h : Ends spec d e) : ¬ Holds spec d := by
  rcases h with h | ⟨-, h⟩
  · exact h.not_holds
  · exact h.1

theorem Ends.unique (h : Ends spec d e) (h' : Ends spec d e') : e = e' := by
  rcases h with h | ⟨rfl, h⟩ <;> rcases h' with h' | ⟨rfl, h'⟩
  · exact h.unique h'
  · exact absurd h (h'.2 e)
  · exact absurd h' (h.2 e')
  · rfl

/-- A part ends as the first of its needs does that does not hold. -/
theorem Ends.of_firstFails (h : FirstFails (Holds spec) (Ends spec) (d.needs spec) e) :
    Ends spec d e := by
  obtain ⟨before, c, rest, hsplit, hbefore, hc | ⟨rfl, hc⟩⟩ := h
  · exact .inl (.inside hsplit hbefore hc)
  · refine .inr ⟨rfl, fun hd => ?_, fun e hd => ?_⟩
    · cases hd with
      | all _ hneeds => exact hc.1 (hneeds c (mem_needs hsplit))
    · cases hd with
      | here he => exact needs_ne_nil hsplit (needs_of_fault? he)
      | inside hsplit' hbefore' hc' =>
        obtain rfl := eq_of_cuts (hsplit.symm.trans hsplit') hbefore hbefore' hc.1 hc'.not_holds
        exact hc.2 e hc'

theorem Settles.whole {x : Except ReadFailure α} (hd : d.fault? spec = none)
    (hx : Settles (Holds spec) (Ends spec) (d.needs spec) x) :
    Settles (Holds spec) (Ends spec) [d] x :=
  hx.part (.all hd) fun _ => .of_firstFails

end Ending

end Spec

end ApiStubs
