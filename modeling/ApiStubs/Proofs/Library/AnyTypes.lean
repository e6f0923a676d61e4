import ApiStubs.Proofs.Library.Signatures

/-! # Parts of a library with any type

A type holds any value, at some depth of arrays, if what is inside the arrays has no better one: an
object, an unknown schema or a reference without a name. An unknown schema is warned about where
schemas are examined, so not in an answer, and a reference without a name is warned about nowhere.
-/

namespace ApiStubs

/-- Whether a type is that of any value, or of arrays of it. -/
def Descriptor.HasAny : Descriptor → Prop
  | .any => True
  | .array item => item.HasAny
  | _ => False

/-- Every scalar has a primitive type, whatever its format. -/
theorem Primitive.kind_of_ofKind?_none {kind : SchemaKind} {format : Option String}
    (h : ofKind? kind format = none) :
    kind = .array ∨ kind = .object ∨ kind = .reference ∨ kind = .unknown := by
  cases kind with
  | integer => unfold ofKind? at h; split at h <;> simp_all
  | number => unfold ofKind? at h; split at h <;> simp_all
  | _ => simp_all [ofKind?]

namespace Schema

/-- What is inside the arrays of a schema. -/
def leaf : Schema → Schema
  | ⟨.array, _, some items, _, _, _⟩ => items.leaf
  | s => s

variable {s : Schema} {t : Descriptor}

theorem isSome_unmodeled?_iff (s : Schema) : s.unmodeled?.isSome ↔ s.leaf.kind = .unknown := by
  fun_induction leaf s with
  | case1 format items properties refName rawType ih => exact ih
  | case2 s hitems =>
    obtain ⟨kind, format, items, properties, refName, rawType⟩ := s
    cases kind with
    | unknown =>
      unfold unmodeled?
      split <;> simp
    | array =>
      cases items with
      | none => simp [unmodeled?]
      | some items => exact (hitems _ _ _ _ _ rfl).elim
    | _ => simp [unmodeled?]

theorem hasAny_leafType {kind : SchemaKind} {format refName : Option String} :
    (leafType kind format refName).HasAny ↔ leafType kind format refName = .any := by
  unfold leafType
  split
  · split <;> simp [Descriptor.HasAny]
  · split <;> simp [Descriptor.HasAny]

/-- A type holds any value as far as what is inside the arrays does. -/
theorem hasAny_iff (h : s.type? = some t) : t.HasAny ↔ s.leaf.type? = some .any := by
  fun_induction leaf s generalizing t with
  | case1 format items properties refName rawType ih =>
    obtain ⟨u, hu, rfl⟩ := Option.map_eq_some_iff.mp h
    exact (ih hu : u.HasAny ↔ _)
  | case2 s hitems =>
    rw [h, Option.some.injEq]
    unfold type? at h
    split at h
    · exact (hitems _ _ _ _ _ rfl).elim
    · cases h
    · cases h
      exact hasAny_leafType

theorem kind_of_leafType_any {kind : SchemaKind} {format refName : Option String}
    (h : leafType kind format refName = .any) :
    kind = .array ∨ kind = .object ∨ kind = .reference ∨ kind = .unknown := by
  unfold leafType at h
  split at h
  · exact .inr (.inr (.inl rfl))
  · split at h
    · cases h
    · exact Primitive.kind_of_ofKind?_none ‹_›

/-- Any value is what an object, an unknown schema and a reference without a name have as type. -/
theorem kind_of_type?_any (h : s.type? = some .any) :
    s.kind = .object ∨ s.kind = .reference ∨ s.kind = .unknown := by
  unfold type? at h
  split at h
  · obtain ⟨_, _, ⟨⟩⟩ := Option.map_eq_some_iff.mp h
  · cases h
  · next items _ _ _ hitems hnone =>
    rcases kind_of_leafType_any (Option.some.inj h) with rfl | hkind
    · cases items with
      | none => exact (hnone rfl rfl).elim
      | some items => exact (hitems _ rfl rfl).elim
    · exact hkind

end Schema

namespace Library

variable {naming : Naming} {language : Language} {plan : Plan} {d : Document} {path : String}
  {o : Operation}

section Types

theorem buildModel_types {name : String} {schema : Schema} {m : Model}
    (h : (buildModel naming name schema).outcome = .ok m) :
    examined naming [] schema.properties = schema.properties ∧
      List.Forall₂ (fun p f => f.name = p.1 ∧ p.2.type? = some f.type)
        schema.properties m.fields := by
  rw [buildModel, Traced.outcome_bind_eq_ok] at h
  obtain ⟨fields, hfields, hpure⟩ := h
  cases hpure
  exact buildFields_eq_ok hfields

theorem buildSignature_types {s : Signature} (h : (buildSignature naming path o).outcome = .ok s) :
    List.Forall₂ (fun site a => site.schema.type? = some a.type) (argumentSites path o)
        s.arguments ∧
      (resultSchema o).bind Schema.type? = s.result.payload := by
  simp only [outcome_buildSignature, except_bind_eq_ok, declaredArguments_eq_ok_iff,
    buildResult_eq_ok_iff] at h
  obtain ⟨arguments, harguments, _, -, result, ⟨-, hpayload⟩, hpure⟩ := h
  cases hpure
  refine ⟨?_, hpayload.symm⟩
  rw [argumentSites_eq, List.forall₂_map_left_iff]
  exact harguments.imp fun _ _ hgives => hgives.2

end Types

/-- What the type of a schema is used for. -/
inductive Use
  | field
  | argument
  | result
deriving DecidableEq

/-- What in a library has a type, with the schema that the type is of. -/
inductive IsTyped (language : Language) (d : Document) : Use → Site → Descriptor → Prop where
  | field {p q : String × Schema} {m : Model} {f : ModelField} :
      p ∈ d.schemas.entries → m ∈ models language d →
      (buildModel language.naming p.1 p.2).outcome = .ok m →
      (q, f) ∈ p.2.properties.zip m.fields → IsTyped language d .field (fieldSite p.1 q) f.type
  | argument {p : String × Operation} {s : Signature} {site : Site} {a : Argument} :
      p ∈ d.operations → s ∈ methods language d →
      (buildSignature language.naming p.1 p.2).outcome = .ok s →
      (site, a) ∈ (argumentSites p.1 p.2).zip s.arguments → IsTyped language d .argument site a.type
  | result {p : String × Operation} {s : Signature} {site : Site} {t : Descriptor} :
      p ∈ d.operations → s ∈ methods language d →
      (buildSignature language.naming p.1 p.2).outcome = .ok s →
      site ∈ resultSite? p.1 p.2 → t ∈ s.result.payload → IsTyped language d .result site t

variable {use : Use} {site : Site} {t : Descriptor}

theorem IsTyped.type?_eq (h : IsTyped language d use site t) : site.schema.type? = some t := by
  cases h with
  | field _ _ hbuilt hzip => exact (List.forall₂_zip (buildModel_types hbuilt).2 hzip).2
  | argument _ _ hbuilt hzip => exact List.forall₂_zip (buildSignature_types hbuilt).1 hzip
  | result _ _ hbuilt hsite ht =>
    obtain ⟨schema, hschema, rfl⟩ := Option.map_eq_some_iff.mp hsite
    have hresult := (buildSignature_types hbuilt).2
    rw [hschema] at hresult
    exact hresult.trans ht

/-- Whatever has a type was examined, apart from answers. -/
theorem IsTyped.examined (h : IsTyped language d use site t) (huse : use ≠ .result) :
    site ∈ examinedSites language d := by
  cases h with
  | field hp _ hbuilt hzip =>
    refine List.mem_append_left _ (List.mem_flatMap.mpr ⟨_, hp, ?_⟩)
    rw [(buildModel_types hbuilt).1]
    exact List.mem_map_of_mem (List.of_mem_zip hzip).1
  | argument hp _ _ hzip =>
    exact List.mem_append_right _ (List.mem_flatMap.mpr ⟨_, hp, (List.of_mem_zip hzip).1⟩)
  | result => exact absurd rfl huse

/-- Whatever has a type that holds any value, and not because of an object, is warned about. -/
def NoSilentAny (plan : Plan) (d : Document) : Prop :=
  ∀ use site t, IsTyped plan.language d use site t → t.HasAny → site.schema.leaf.kind ≠ .object →
    ∃ rawType, .unmodeled site.name rawType ∈ notices plan d

theorem exists_unmodeled_iff {name : String} :
    (∃ rawType, .unmodeled name rawType ∈ notices plan d) ↔
      ∃ site ∈ examinedSites plan.language d,
        site.name = name ∧ site.schema.leaf.kind = .unknown := by
  simp only [unmodeled_mem_notices_iff, ← Schema.isSome_unmodeled?_iff,
    Option.isSome_iff_exists]
  constructor
  · rintro ⟨rawType, site, hsite, hname, hraw⟩
    exact ⟨site, hsite, hname, rawType, hraw⟩
  · rintro ⟨site, hsite, hname, rawType, hraw⟩
    exact ⟨rawType, site, hsite, hname, hraw⟩

/-- No part of a library has any type without a warning exactly if none has it for a reference
without a name or as an unknown answer, unless a part with the same name is warned about. -/
theorem noSilentAny_iff (plan : Plan) (d : Document) :
    NoSilentAny plan d ↔
      ∀ use site t, IsTyped plan.language d use site t → t.HasAny →
        site.schema.leaf.kind = .reference ∨ use = .result ∧ site.schema.leaf.kind = .unknown →
        ∃ other ∈ examinedSites plan.language d,
          other.name = site.name ∧ other.schema.leaf.kind = .unknown := by
  simp only [NoSilentAny, exists_unmodeled_iff]
  constructor
  · intro h use site t htyped hany hkind
    refine h use site t htyped hany ?_
    rcases hkind with hkind | ⟨-, hkind⟩ <;> simp [hkind]
  · intro h use site t htyped hany hobject
    have hleaf := (Schema.hasAny_iff htyped.type?_eq).mp hany
    rcases Schema.kind_of_type?_any hleaf with hkind | hkind | hkind
    · exact absurd hkind hobject
    · exact h use site t htyped hany (.inl hkind)
    · by_cases huse : use = .result
      · exact h use site t htyped hany (.inr ⟨huse, hkind⟩)
      · exact ⟨site, htyped.examined huse, rfl, hkind⟩

/-- What is not known: one of several schemas. -/
def oneOf : Schema where
  rawType := some "oneOf"

/-- A call that answers with what is not known. -/
def unknownAnswer : Document where
  schemas := Table.ofList []
  routes :=
    [{ path := "/a", operations := Table.ofList [(.get, {
        verb := .get
        responses := Table.ofList [("200", Table.ofList [("application/json", oneOf)])] })] }]

/-- The answer has any type, and nothing is warned about. -/
theorem not_noSilentAny_unknownAnswer :
    ¬ NoSilentAny { language := .csharp } unknownAnswer ∧
      ¬ NoSilentAny { language := .python } unknownAnswer := by
  have hno : ∀ language, (∀ n ∈ notices { language } unknownAnswer, n.level ≠ .warning) →
      ⟨"GetA", "/a", .get, [], ⟨some .any⟩, none⟩ ∈ methods language unknownAnswer →
      ¬ NoSilentAny { language } unknownAnswer := by
    intro language hsilent hs h
    have htyped : IsTyped language unknownAnswer .result ⟨"GET /a: response", oneOf⟩ .any :=
      .result (.head _) hs rfl rfl rfl
    obtain ⟨rawType, hwarned⟩ := h _ _ _ htyped trivial (by decide)
    exact hsilent _ hwarned rfl
  exact ⟨hno .csharp (by decide +kernel) (by decide +kernel),
    hno .python (by decide +kernel) (by decide +kernel)⟩

end Library

end ApiStubs
