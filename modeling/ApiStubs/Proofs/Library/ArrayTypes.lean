import ApiStubs.Proofs.Library.AnyTypes
import ApiStubs.Proofs.Library.References

/-! # Types of schemas inside arrays

The type of a schema is decided by what is inside its arrays: by its kind and its format, or by its
name if it is a reference. Each array around it is one more around the type. The only schemas
without a type are those whose arrays end in one without items, however deep, and the message about
them names the place where the schema as a whole was found.
-/

namespace ApiStubs

open Descriptor

variable {s t : Schema} {d : Descriptor} {n : ℕ} {fallback : String}

/-- The text that is used in a place where there may be none, or an empty one. -/
inductive Stated (fallback : String) : Option String → String → Prop
  | given {text : String} : text ≠ "" → Stated fallback (some text) text
  | empty : Stated fallback (some "") fallback
  | missing : Stated fallback none fallback

theorem Stated.unique {text? : Option String} {a b : String} (ha : Stated fallback text? a)
    (hb : Stated fallback text? b) : a = b := by
  cases ha <;> cases hb <;> first | rfl | contradiction

theorem stated_contextOr (context : Option String) :
    Stated "<array>" context (contextOr context) := by
  unfold contextOr
  split
  · exact .empty
  · exact .missing
  · next hne => exact .given hne

namespace Primitive

/-- The types of the kinds and formats that are listed. The one for a kind alone is what a format
that is not listed has. -/
def listed : List ((SchemaKind × Option String) × Primitive) :=
  [((.string, none), .string), ((.integer, some "int64"), .int64), ((.integer, none), .int32),
    ((.number, some "float"), .float32), ((.number, none), .float64), ((.boolean, none), .bool)]

/-- The primitive type is looked up with the format first, and then without it. -/
theorem ofKind?_eq_lookup (kind : SchemaKind) (format : Option String) :
    ofKind? kind format = (listed.lookup (kind, format)).or (listed.lookup (kind, none)) := by
  rcases format with _ | format
  · cases kind <;> rfl
  · cases kind with
    | integer =>
      by_cases h : format = "int64"
      · subst h; rfl
      · simp [ofKind?, listed, List.lookup_cons, beq_eq_decide, h]
    | number =>
      by_cases h : format = "float"
      · subst h; rfl
      · simp [ofKind?, listed, List.lookup_cons, beq_eq_decide, h]
    | _ => simp [ofKind?, listed, List.lookup_cons, beq_eq_decide]

end Primitive

namespace Schema

/-- A schema is so many arrays around another one. -/
inductive Layers : ℕ → Schema → Schema → Prop
  | zero (s : Schema) : Layers 0 s s
  | succ {n : ℕ} {s items t : Schema} :
      s.kind = .array → s.items = some items → Layers n items t → Layers (n + 1) s t

/-- A reference to something that has a name. -/
def RefersTo (s : Schema) (name : String) : Prop :=
  s.kind = .reference ∧ s.refName = some name ∧ name ≠ ""

/-- The type of a schema that is not an array. -/
inductive HasType (s : Schema) : Descriptor → Prop
  | string : s.kind = .string → HasType s (.primitive .string)
  | int64 : s.kind = .integer → s.format = some "int64" → HasType s (.primitive .int64)
  | int32 : s.kind = .integer → s.format ≠ some "int64" → HasType s (.primitive .int32)
  | float32 : s.kind = .number → s.format = some "float" → HasType s (.primitive .float32)
  | float64 : s.kind = .number → s.format ≠ some "float" → HasType s (.primitive .float64)
  | bool : s.kind = .boolean → HasType s (.primitive .bool)
  | object : s.kind = .object → HasType s .any
  | named {name : String} : s.RefersTo name → HasType s (.named name)
  | nameless : s.kind = .reference → (∀ name, ¬ s.RefersTo name) → HasType s .any
  | unknown : s.kind = .unknown → HasType s .any

/-- What follows from what is inside the arrays of a schema with a type. -/
structure Resolves (s : Schema) (n : ℕ) (t : Schema) (d : Descriptor) : Prop where
  layers : Layers n s t
  notArray : t.kind ≠ .array
  type : ∃ u, t.HasType u ∧ d = inArrays n u
  unmodeled text : s.unmodeled? = some text ↔ t.kind = .unknown ∧ Stated "<без типа>" t.rawType text
  named name : t.RefersTo name → d.names = [name]
  unnamed : (∀ name, ¬ t.RefersTo name) → d.names = []

section Layers

theorem exists_layers (s : Schema) : ∃ n, Layers n s s.leaf := by
  fun_induction leaf s with
  | case1 format items properties refName rawType ih =>
    obtain ⟨n, hn⟩ := ih
    exact ⟨n + 1, .succ rfl rfl hn⟩
  | case2 s => exact ⟨0, .zero s⟩

theorem items_leaf (h : s.leaf.kind = .array) : s.leaf.items = none := by
  fun_induction leaf s with
  | case1 format items properties refName rawType ih => exact ih h
  | case2 s hitems =>
    obtain ⟨kind, format, items, properties, refName, rawType⟩ := s
    cases h
    cases items with
    | none => rfl
    | some items => exact (hitems _ _ _ _ _ rfl).elim

theorem type?_of_items {items : Schema} (hkind : s.kind = .array) (hitems : s.items = some items) :
    s.type? = items.type?.map .array := by
  obtain ⟨kind, format, items, properties, refName, rawType⟩ := s
  cases hkind
  cases hitems
  rw [type?]

theorem unmodeled?_of_items {items : Schema} (hkind : s.kind = .array)
    (hitems : s.items = some items) : s.unmodeled? = items.unmodeled? := by
  obtain ⟨kind, format, items, properties, refName, rawType⟩ := s
  cases hkind
  cases hitems
  rw [unmodeled?]

theorem Layers.type?_eq (h : Layers n s t) : s.type? = t.type?.map (inArrays n) := by
  induction h with
  | zero s => exact Option.map_id'.symm
  | succ hkind hitems _ ih =>
    rw [type?_of_items hkind hitems, ih, Option.map_map]
    rfl

theorem Layers.unmodeled?_eq (h : Layers n s t) : s.unmodeled? = t.unmodeled? := by
  induction h with
  | zero => rfl
  | succ hkind hitems _ ih => rw [unmodeled?_of_items hkind hitems, ih]

end Layers

section Leaf

theorem type?_of_none (hkind : s.kind = .array) (hitems : s.items = none) : s.type? = none := by
  obtain ⟨kind, format, items, properties, refName, rawType⟩ := s
  cases hkind
  cases hitems
  rw [type?]

theorem type?_of_ne_array (h : s.kind ≠ .array) :
    s.type? = some (leafType s.kind s.format s.refName) := by
  obtain ⟨kind, format, items, properties, refName, rawType⟩ := s
  unfold type?
  split <;> simp_all

theorem RefersTo.leafType_eq {name : String} (h : s.RefersTo name) :
    leafType s.kind s.format s.refName = .named name := by
  obtain ⟨hkind, hname, hne⟩ := h
  rw [hkind, hname, leafType, if_neg (by simpa using hne)]

theorem leafType_eq_any (hkind : s.kind = .reference) (h : ∀ name, ¬ s.RefersTo name) :
    leafType s.kind s.format s.refName = .any := by
  cases hname : s.refName with
  | none => rw [hkind]; rfl
  | some name =>
    have hempty : name = "" := by_contra fun hne => h name ⟨hkind, hname, hne⟩
    rw [hkind, hempty]
    rfl

theorem HasType.leafType_eq (h : s.HasType d) : leafType s.kind s.format s.refName = d := by
  cases h with
  | named h => exact h.leafType_eq
  | nameless hkind h => exact leafType_eq_any hkind h
  | int64 hkind hformat | float32 hkind hformat =>
    simp [leafType, hkind, hformat, Primitive.ofKind?]
  | int32 hkind hformat | float64 hkind hformat => simp [leafType, hkind, Primitive.ofKind?]
  | string hkind | bool hkind | object hkind | unknown hkind =>
    simp [leafType, hkind, Primitive.ofKind?]

theorem exists_hasType (h : s.kind ≠ .array) : ∃ u, s.HasType u := by
  cases hkind : s.kind with
  | string => exact ⟨_, .string hkind⟩
  | integer =>
    by_cases hformat : s.format = some "int64"
    · exact ⟨_, .int64 hkind hformat⟩
    · exact ⟨_, .int32 hkind hformat⟩
  | number =>
    by_cases hformat : s.format = some "float"
    · exact ⟨_, .float32 hkind hformat⟩
    · exact ⟨_, .float64 hkind hformat⟩
  | boolean => exact ⟨_, .bool hkind⟩
  | array => exact absurd hkind h
  | object => exact ⟨_, .object hkind⟩
  | reference =>
    by_cases hname : ∃ name, s.RefersTo name
    · exact ⟨_, .named hname.choose_spec⟩
    · exact ⟨_, .nameless hkind (not_exists.mp hname)⟩
  | unknown => exact ⟨_, .unknown hkind⟩

theorem type?_eq_some_iff_hasType (h : s.kind ≠ .array) : s.type? = some d ↔ s.HasType d := by
  rw [type?_of_ne_array h, Option.some.injEq]
  constructor
  · rintro rfl
    obtain ⟨u, hu⟩ := exists_hasType h
    rwa [hu.leafType_eq]
  · exact HasType.leafType_eq

theorem HasType.names_of_refersTo {name : String} (h : s.HasType d) (hname : s.RefersTo name) :
    d.names = [name] := by
  rw [← h.leafType_eq, hname.leafType_eq, names]

theorem HasType.names_eq_nil (h : s.HasType d) (hname : ∀ name, ¬ s.RefersTo name) :
    d.names = [] := by
  cases h with
  | named h => exact absurd h (hname _)
  | _ => rfl

theorem exists_unmodeled?_eq_some (h : s.kind = .unknown) :
    ∃ text, s.unmodeled? = some text ∧ Stated "<без типа>" s.rawType text := by
  obtain ⟨kind, format, items, properties, refName, rawType⟩ := s
  cases h
  unfold unmodeled?
  dsimp only
  split
  · exact ⟨_, rfl, .empty⟩
  · exact ⟨_, rfl, .missing⟩
  · next hne => exact ⟨_, rfl, .given hne⟩

theorem unmodeled?_eq_none (harray : s.kind ≠ .array) (hunknown : s.kind ≠ .unknown) :
    s.unmodeled? = none := by
  obtain ⟨kind, format, items, properties, refName, rawType⟩ := s
  unfold unmodeled?
  split <;> simp_all

theorem unmodeled?_eq_some_iff {text : String} (h : s.kind ≠ .array) :
    s.unmodeled? = some text ↔ s.kind = .unknown ∧ Stated "<без типа>" s.rawType text := by
  constructor
  · intro htext
    have hkind : s.kind = .unknown := by
      by_contra hne
      cases htext.symm.trans (unmodeled?_eq_none h hne)
    obtain ⟨other, hother, hstated⟩ := exists_unmodeled?_eq_some hkind
    cases htext.symm.trans hother
    exact ⟨hkind, hstated⟩
  · rintro ⟨hkind, hstated⟩
    obtain ⟨other, hother, hother'⟩ := exists_unmodeled?_eq_some hkind
    rw [hother, hstated.unique hother']

end Leaf

theorem type?_eq_none_iff :
    s.type? = none ↔ ∃ n t, Layers n s t ∧ t.kind = .array ∧ t.items = none := by
  constructor
  · intro hnone
    -- the arrays of a schema end in its leaf, which has a type unless it is an array itself
    obtain ⟨n, hn⟩ := exists_layers s
    have hleaf : s.leaf.kind = .array := by
      by_contra hne
      rw [hn.type?_eq, type?_of_ne_array hne] at hnone
      cases hnone
    exact ⟨n, s.leaf, hn, hleaf, items_leaf hleaf⟩
  · rintro ⟨n, t, hn, hkind, hitems⟩
    rw [hn.type?_eq, type?_of_none hkind hitems, Option.map_none]

theorem type?_eq_some_iff : s.type? = some d ↔ ∃ n t, Resolves s n t d := by
  constructor
  · intro hsome
    obtain ⟨n, hn⟩ := exists_layers s
    have hleaf : s.leaf.kind ≠ .array := by
      intro hkind
      rw [hn.type?_eq, type?_of_none hkind (items_leaf hkind)] at hsome
      cases hsome
    rw [hn.type?_eq, Option.map_eq_some_iff] at hsome
    obtain ⟨u, hu, rfl⟩ := hsome
    have hu := (type?_eq_some_iff_hasType hleaf).mp hu
    refine ⟨n, s.leaf, hn, hleaf, ⟨u, hu, rfl⟩, fun text => ?_, ?_, ?_⟩
    · rw [hn.unmodeled?_eq, unmodeled?_eq_some_iff hleaf]
    · intro name hname
      rw [names_inArrays, hu.names_of_refersTo hname]
    · intro hname
      rw [names_inArrays, hu.names_eq_nil hname]
  · rintro ⟨n, t, h⟩
    obtain ⟨u, hu, rfl⟩ := h.type
    rw [h.layers.type?_eq, (type?_eq_some_iff_hasType h.notArray).mpr hu, Option.map_some]

end Schema

/-- A schema is refused exactly if its arrays end in one without items, with the place that is known
as the context. Otherwise it has as many arrays of the type of what is inside them. -/
theorem Library.typeOf_iff (context : Option String) (s : Schema) :
    (∀ e, typeOf context s = .error e ↔
      (∃ n t, Schema.Layers n s t ∧ t.kind = .array ∧ t.items = none) ∧
        ∃ c, Stated "<array>" context c ∧ e = .missingItems c) ∧
    ∀ d, typeOf context s = .ok d ↔ ∃ n t, Schema.Resolves s n t d := by
  refine ⟨fun e => ?_, fun d => typeOf_eq_ok_iff.trans Schema.type?_eq_some_iff⟩
  rw [typeOf_eq_error_iff, Schema.type?_eq_none_iff]
  refine and_congr_right fun _ => ?_
  constructor
  · rintro rfl
    exact ⟨contextOr context, stated_contextOr context, rfl⟩
  · rintro ⟨c, hc, rfl⟩
    rw [hc.unique (stated_contextOr context)]

end ApiStubs
