import ApiStubs.Proofs.Spec.WrittenPointers

/-! # Well-formed schemas

The kind of a schema that was read says which of its other fields are set, for the schema itself and
for every schema inside it. Nothing else is known of such schemas: whatever is well formed in this
sense can be written down so that it is read again.
-/

namespace ApiStubs

namespace SchemaKind

variable {word : String} {kind : SchemaKind}

def IsScalar (kind : SchemaKind) : Prop :=
  kind = .string ∨ kind = .integer ∨ kind = .number ∨ kind = .boolean

theorem ofScalarType?_eq_some_iff :
    ofScalarType? word = some kind ↔ word = kind.label ∧ kind.IsScalar := by
  constructor
  · intro h
    have hlabel : kind.label = word := by simpa using List.find?_some h
    have hmem : kind ∈ [string, integer, number, boolean] := List.mem_of_find?_eq_some h
    exact ⟨hlabel.symm, by simpa [IsScalar] using hmem⟩
  · rintro ⟨rfl, rfl | rfl | rfl | rfl⟩ <;> rfl

theorem ofScalarType?_eq_none_iff :
    ofScalarType? word = none ↔ word ∉ ["string", "integer", "number", "boolean"] := by
  rw [ofScalarType?, List.find?_eq_none]
  simp [label, eq_comm (a := word)]

end SchemaKind

namespace Schema

/-- A schema contains itself and what its items and its properties contain. -/
inductive Contains : Schema → Schema → Prop where
  | itself {s : Schema} : Contains s s
  | items {s t u : Schema} : s.items = some t → Contains t u → Contains s u
  | property {s t u : Schema} {name : String} : (name, t) ∈ s.properties → Contains t u →
      Contains s u

/-- The words for the types that have a meaning in a schema. -/
def modelledTypes : List String :=
  ["array", "object", "string", "integer", "number", "boolean"]

/-- The fields of a schema are those of its kind. -/
structure Fits (s : Schema) : Prop where
  reference : s.refName.isSome ↔ s.kind = .reference
  items : s.items.isSome → s.kind = .array
  properties : s.properties ≠ [] → s.kind = .object
  names : (s.properties.map Prod.fst).Nodup
  format : s.format.isSome → s.kind.IsScalar
  unknown : ∀ word ∈ s.rawType, s.kind = .unknown ∧ word ∉ modelledTypes

/-- A schema fits its kind, and so does every schema inside it. -/
def WellFormed (s : Schema) : Prop :=
  ∀ t, s.Contains t → t.Fits

/-- The schemas that fit, by what they are made of. -/
inductive Form : Schema → Prop where
  | unknown {word : Option String} : (∀ w ∈ word, w ∉ modelledTypes) → Form { rawType := word }
  | reference (name : String) : Form { kind := .reference, refName := some name }
  | array (items : Option Schema) : Form { kind := .array, items }
  | object {properties : List (String × Schema)} : (properties.map Prod.fst).Nodup →
      Form { kind := .object, properties }
  | scalar {kind : SchemaKind} (format : Option String) : kind.IsScalar → Form { kind, format }

variable {s : Schema}

theorem fits_iff : s.Fits ↔ s.Form := by
  constructor
  · intro h
    obtain ⟨kind, format, items, properties, refName, rawType⟩ := s
    have hitems : kind ≠ .array → items = none := fun hk => by simpa using mt h.items hk
    have hproperties : kind ≠ .object → properties = [] := fun hk => by
      simpa using mt h.properties hk
    have hname : kind ≠ .reference → refName = none := fun hk => by simpa using mt h.reference.mp hk
    have hformat : ¬ kind.IsScalar → format = none := fun hk => by simpa using mt h.format hk
    have hword : kind ≠ .unknown → rawType = none := fun hk =>
      Option.eq_none_iff_forall_not_mem.mpr fun word hw => hk (h.unknown word hw).1
    cases kind with
    | string | integer | number | boolean =>
      cases hitems nofun; cases hproperties nofun; cases hname nofun; cases hword nofun
      exact .scalar format (by simp [SchemaKind.IsScalar])
    | array =>
      cases hproperties nofun; cases hname nofun; cases hword nofun
      cases hformat (by simp [SchemaKind.IsScalar])
      exact .array items
    | object =>
      cases hitems nofun; cases hname nofun; cases hword nofun
      cases hformat (by simp [SchemaKind.IsScalar])
      exact .object h.names
    | reference =>
      cases hitems nofun; cases hproperties nofun; cases hword nofun
      cases hformat (by simp [SchemaKind.IsScalar])
      obtain ⟨name, rfl⟩ := Option.isSome_iff_exists.mp (h.reference.mpr rfl)
      exact .reference name
    | unknown =>
      cases hitems nofun; cases hproperties nofun; cases hname nofun
      cases hformat (by simp [SchemaKind.IsScalar])
      exact .unknown fun word hw => (h.unknown word hw).2
  · intro h
    cases h with
    | scalar format hk => rcases hk with rfl | rfl | rfl | rfl <;> constructor <;>
        simp [SchemaKind.IsScalar]
    | _ => constructor <;> simp_all

theorem wellFormed_iff : s.WellFormed ↔
    s.Form ∧ (∀ t ∈ s.items, t.WellFormed) ∧ ∀ p ∈ s.properties, p.2.WellFormed := by
  rw [← fits_iff]
  constructor
  · intro h
    exact ⟨h s .itself, fun t ht u hu => h u (.items ht hu), fun p hp u hu => h u (.property hp hu)⟩
  · rintro ⟨hs, hitems, hproperties⟩ t ht
    cases ht with
    | itself => exact hs
    | items hu ht => exact hitems _ hu t ht
    | property hu ht => exact hproperties _ hu t ht

/-- A text under a key, if there is one. -/
def writtenText (key : String) : Option String → Fields
  | none => []
  | some s => [(.text key, .text s)]

mutual

/-- A schema as a value that it can be read from. -/
def written : Schema → Value
  | ⟨kind, format, items, properties, refName, rawType⟩ =>
    .object <|
      match kind with
      | .reference =>
        [(.text "$ref", .text ("#/components/schemas/" ++ Pointer.escape (refName.getD "")))]
      | .array => (.text "type", .text kind.label) :: writtenItems items
      | .object =>
        [(.text "type", .text kind.label), (.text "properties", .object (writtenFields properties))]
      | .unknown => writtenText "type" rawType
      | _ => (.text "type", .text kind.label) :: writtenText "format" format

def writtenItems : Option Schema → Fields
  | none => []
  | some s => [(.text "items", s.written)]

def writtenFields : List (String × Schema) → Fields
  | [] => []
  | (name, s) :: rest => (.text name, s.written) :: writtenFields rest

end

theorem written_ne_null (s : Schema) : s.written ≠ .null := by
  cases s
  exact nofun

end Schema

namespace Spec

open Schema

variable {spec : Spec} {v : Value} {s : Schema} {fields : Fields}
  {read : Value → Except ReadFailure Schema}

section Read

theorem putProperty_eq (l : List (String × Schema)) (k : String) (s : Schema) :
    putProperty l k s = Table.putEntry k s l := by
  induction l with
  | nil => rfl
  | cons p rest ih => rw [putProperty, Table.putEntry, ih]

/-- The properties of a schema make a table. -/
theorem foldl_putProperty (schemas : List (String × Schema)) :
    schemas.foldl (fun l p => putProperty l p.1 p.2) [] = (Table.ofList schemas).entries := by
  have hfold : ∀ t : Table String Schema,
      schemas.foldl (fun l p => putProperty l p.1 p.2) t.entries =
        (schemas.foldl (fun t p => t.insert p.1 p.2) t).entries := by
    induction schemas with
    | nil => exact fun _ => rfl
    | cons p rest ih =>
      intro t
      rw [List.foldl_cons, List.foldl_cons, ← ih, putProperty_eq]
      rfl
  exact hfold {}

theorem exists_read_of_schemasOf {schemas : List (String × Schema)} {p : String × Schema}
    (h : schemasOf read fields = .ok schemas) (hp : p ∈ schemas) : ∃ u, read u = .ok p.2 := by
  induction fields generalizing schemas with
  | nil =>
    cases h
    cases hp
  | cons q rest ih =>
    simp only [schemasOf, except_bind_eq_ok] at h
    obtain ⟨s, hs, others, hothers, hpure⟩ := h
    cases hpure
    rcases List.mem_cons.mp hp with rfl | hp
    · exact ⟨q.2, hs⟩
    · exact ih hothers hp

theorem wellFormed_of_schemaOfFields (hread : ∀ u s, read u = .ok s → s.WellFormed)
    (h : spec.schemaOfFields read fields = .ok s) : s.WellFormed := by
  obtain ⟨word, -, h⟩ := except_bind_eq_ok.mp h
  split at h
  · split at h
    · exact Except.ok.inj h ▸ wellFormed_iff.mpr ⟨.array none, by simp, by simp⟩
    · exact Except.ok.inj h ▸ wellFormed_iff.mpr ⟨.array none, by simp, by simp⟩
    · next u _ _ =>
      obtain ⟨items, hitems, h⟩ := except_bind_eq_ok.mp h
      have hitems := hread u items hitems
      exact Except.ok.inj h ▸ wellFormed_iff.mpr ⟨.array (some items), by simpa, by simp⟩
  · next harray =>
    split at h
    · obtain ⟨inner, -, h⟩ := except_bind_eq_ok.mp h
      obtain ⟨properties, -, h⟩ := except_bind_eq_ok.mp h
      obtain ⟨schemas, hschemas, h⟩ := except_bind_eq_ok.mp h
      rw [foldl_putProperty] at h
      refine Except.ok.inj h ▸ wellFormed_iff.mpr
        ⟨.object (Table.ofList schemas).nodup, by simp, fun p hp => ?_⟩
      obtain ⟨u, hu⟩ := exists_read_of_schemasOf hschemas (Table.mem_of_mem_ofList hp)
      exact hread u p.2 hu
    · next hobject =>
      split at h
      · next kind hkind =>
        obtain ⟨format, -, h⟩ := except_bind_eq_ok.mp h
        obtain ⟨w, -, hkind⟩ := Option.bind_eq_some_iff.mp hkind
        have hscalar := (SchemaKind.ofScalarType?_eq_some_iff.mp hkind).2
        exact Except.ok.inj h ▸ wellFormed_iff.mpr ⟨.scalar format hscalar, by simp, by simp⟩
      · next hscalar =>
        refine Except.ok.inj h ▸ wellFormed_iff.mpr ⟨.unknown fun w hw => ?_, by simp, by simp⟩
        cases word with
        | none =>
          rw [Option.none_or] at hw
          have hword : ∀ w ∈ compositions, w ∉ modelledTypes := by decide
          exact hword w (List.mem_of_find?_eq_some hw)
        | some word =>
          obtain rfl : word = w := Option.some.inj hw
          have hscalar := SchemaKind.ofScalarType?_eq_none_iff.mp hscalar
          simp_all [modelledTypes]

/-- Whatever is read is well formed, plain or linked. -/
theorem wellFormed_of_schema (h : spec.schema v = .ok s) : s.WellFormed := by
  have hread : ∀ n v s, spec.schemaUpTo n v = .ok s → s.WellFormed := by
    intro n
    induction n with
    | zero => exact fun _ _ h => nomatch h
    | succ n ih =>
      intro v s h
      have hempty : ({} : Schema).WellFormed :=
        wellFormed_iff.mpr ⟨.unknown (by simp), by simp, by simp⟩
      obtain ⟨w, -, h⟩ := except_bind_eq_ok.mp h
      split at h
      · split at h
        · next name _ =>
          exact Except.ok.inj h ▸ wellFormed_iff.mpr ⟨.reference name, by simp, by simp⟩
        · obtain ⟨u, -, h⟩ := except_bind_eq_ok.mp h
          split at h
          · exact wellFormed_of_schemaOfFields ih h
          · exact Except.ok.inj h ▸ hempty
      · exact Except.ok.inj h ▸ hempty
  exact hread _ v s h

end Read

section Written

theorem schema_object (root : Value) (source : String)
    (h : (Value.object fields).link? = none) :
    ({ root, source } : Spec).schema (.object fields) =
      ({ root, source } : Spec).schemaOfFields ({ root, source } : Spec).schema fields := by
  have hfollow : ({ root, source } : Spec).follow (.object fields) = .ok (.object fields) := by
    rw [follow_plain_eq_ok_iff, Reference.follow_eq_ok_iff]
    refine ⟨[], .here, List.nodup_nil, fun ref hrefers => ?_⟩
    rw [hrefers.link] at h
    cases h
  rw [schema_eq, schemaWith, h]
  simp only [look, hfollow, Bind.bind, Except.bind, Option.bind]

theorem typeWord?_text {word : String} (root : Value) (source : String)
    (h : Fields.get? fields "type" = some (.text word)) :
    ({ root, source } : Spec).typeWord? fields = .ok (some word) := by
  unfold typeWord?
  rw [h]
  rfl

theorem section?_object {name : String} {inner : Fields} (root : Value) (source : String)
    (h : Fields.get? fields name = some (.object inner)) :
    ({ root, source } : Spec).section? fields name = .ok (.object inner) := by
  rw [section?, h]
  cases inner <;> rfl

theorem schemaOfFields_array {u : Value} {t : Schema}
    (hword : spec.typeWord? fields = .ok (some "array"))
    (hu : Fields.get? fields "items" = some u) (hnull : u ≠ .null) (ht : read u = .ok t) :
    spec.schemaOfFields read fields = .ok { kind := .array, items := some t } := by
  rw [schemaOfFields, hword, hu]
  simp only [Bind.bind, Except.bind, if_pos]
  split
  · next h => cases h
  · next h => exact absurd (Option.some.inj h) hnull
  · next h => rw [← Option.some.inj h, ht]

theorem schemaOfFields_object {inner : Fields} {schemas : List (String × Schema)}
    (hword : spec.typeWord? fields = .ok (some "object"))
    (hsection : spec.section? fields "properties" = .ok (.object inner))
    (hread : schemasOf read inner = .ok schemas) : spec.schemaOfFields read fields =
      .ok { kind := .object, properties := (Table.ofList schemas).entries } := by
  rw [schemaOfFields, hword, ← foldl_putProperty]
  simp [Bind.bind, Except.bind, hsection, fieldsOf, hread]

theorem schemaOfFields_scalar {kind : SchemaKind} {format : Option String} (hk : kind.IsScalar)
    (hword : spec.typeWord? fields = .ok (some kind.label))
    (hformat : textField? fields "format" = .ok format) :
    spec.schemaOfFields read fields = .ok { kind, format } := by
  rw [schemaOfFields, hword, hformat]
  rcases hk with rfl | rfl | rfl | rfl <;> rfl

theorem schemaOfFields_unknown {word : String} (hword : spec.typeWord? fields = .ok (some word))
    (h : word ∉ modelledTypes) :
    spec.schemaOfFields read fields = .ok { rawType := some word } := by
  have hscalar : SchemaKind.ofScalarType? word = none :=
    SchemaKind.ofScalarType?_eq_none_iff.mpr fun hmem => h (by simp_all [modelledTypes])
  rw [schemaOfFields, hword]
  simp_all [Bind.bind, Except.bind, modelledTypes]

mutual

/-- A well-formed schema is read from what is written for it. -/
theorem schema_written (root : Value) (source : String) :
    ∀ s : Schema, s.WellFormed → ({ root, source } : Spec).schema s.written = .ok s
  | ⟨kind, format, items, properties, refName, rawType⟩, h => by
    obtain ⟨hform, hitems, hproperties⟩ := wellFormed_iff.mp h
    cases hform with
    | unknown hword =>
      rw [written, schema_object root source (by cases rawType <;> rfl)]
      cases rawType with
      | none => rfl
      | some word => exact schemaOfFields_unknown (typeWord?_text root source rfl) (hword word rfl)
    | reference name => exact (follow_written root source).2 name
    | array =>
      rw [written, schema_object root source (by cases items <;> rfl)]
      cases items with
      | none => rfl
      | some t =>
        exact schemaOfFields_array (typeWord?_text root source rfl) rfl t.written_ne_null
          (schema_written root source t (hitems t rfl))
    | object hnodup =>
      rw [written, schema_object root source rfl]
      refine (schemaOfFields_object (typeWord?_text root source rfl)
        (section?_object root source rfl)
        (schemasOf_written root source properties hproperties)).trans ?_
      rw [Table.entries_ofList hnodup]
    | scalar _ hscalar =>
      have hfields : written { kind, format } =
          .object ((.text "type", .text kind.label) :: writtenText "format" format) := by
        rcases hscalar with rfl | rfl | rfl | rfl <;> rfl
      rw [hfields, schema_object root source (by cases format <;> rfl)]
      exact schemaOfFields_scalar hscalar (typeWord?_text root source rfl) (by cases format <;> rfl)

theorem schemasOf_written (root : Value) (source : String) :
    ∀ l : List (String × Schema), (∀ p ∈ l, p.2.WellFormed) →
      schemasOf ({ root, source } : Spec).schema (writtenFields l) = .ok l
  | [], _ => rfl
  | (name, s) :: rest, h => by
    obtain ⟨hs, hrest⟩ := List.forall_mem_cons.mp h
    have hs := schema_written root source s hs
    have hrest := schemasOf_written root source rest hrest
    simp only [writtenFields, schemasOf, hs, hrest, Bind.bind, Except.bind]
    rfl

end

/-- The schemas that can be read from a plain specification are the well-formed ones. -/
theorem exists_schema_eq_iff (root : Value) (source : String) (s : Schema) :
    (∃ v, ({ root, source } : Spec).schema v = .ok s) ↔ ∀ t, s.Contains t → t.Fits := by
  constructor
  · rintro ⟨v, h⟩
    exact wellFormed_of_schema h
  · intro h
    exact ⟨s.written, schema_written root source s h⟩

end Written

end Spec

end ApiStubs
