import ApiStubs.Proofs.Reference.Chain
import ApiStubs.Proofs.Spec.Components

/-! # References to places other than components

A reference that is not for a component schema is followed to the end of its chain at once, and what
is there is read. So it is read as the object that it leads to unless this object is itself a
reference to a component, which would be kept by name if it were read on its own.
-/

namespace ApiStubs

namespace Spec

open Reference

variable {root t v w : Value} {source ref name : String}

/-- A reference that is not for a component leads to an object, and its chain comes to an end. -/
structure Alias (root : Value) (ref : String) (t : Value) : Prop where
  next : Next root (referring ref) ref t
  other : ¬ "#/components/schemas/".toList <+: ref.toList
  ends : ¬ Endless root (referring ref)

/-- A reference is read as the object that it leads to, and as a reference to a component if this
object is one. -/
structure Transparent (root : Value) (source ref : String) : Prop where
  read : ∀ t, Alias root ref t →
    ({ root, source } : Spec).schema (referring ref) = ({ root, source } : Spec).schema t
  named : ∀ t name, Alias root ref t → t.link?.bind componentName? = some name →
    ({ root, source } : Spec).schema (referring ref) =
      .ok { kind := .reference, refName := some name }

theorem componentName?_eq_none_iff :
    componentName? ref = none ↔ ¬ "#/components/schemas/".toList <+: ref.toList := by
  rw [componentName?, Option.map_eq_none_iff, ← Option.not_isSome_iff_eq_none,
    Text.isSome_dropStart?_iff]

theorem refers_of_componentName? (h : v.link?.bind componentName? = some name) :
    ∃ ref, Refers v ref := by
  obtain ⟨ref, hlink, hname⟩ := Option.bind_eq_some_iff.mp h
  obtain ⟨rest, hrest, -⟩ := toList_of_componentName? hname
  refine ⟨ref, hlink, ?_⟩
  rw [hrest]
  exact ⟨_, rfl⟩

theorem Alias.link? (h : Alias root ref t) : (referring ref).link?.bind componentName? = none := by
  rw [h.next.refers.link]
  exact componentName?_eq_none_iff.mpr h.other

/-- What is behind an alias is followed as it is from the object that the alias leads to. -/
theorem Alias.follow_eq (h : Alias root ref t) :
    Reference.follow root (referring ref) = Reference.follow root t := by
  obtain ⟨refs, u, hchain, hnodup, hstops⟩ := follow_eq_iff.mp (rfl : Reference.follow root t = _)
  have hfresh : ref ∉ refs := by
    intro hr
    obtain ⟨before, after, rfl⟩ := List.append_of_mem hr
    obtain ⟨x, hbefore, hrest⟩ := hchain.split
    cases hrest with
    | next hnext _ =>
      exact h.ends ((Chain.next h.next hbefore).endless hnext.refers List.mem_cons_self)
  exact follow_eq_iff.mpr ⟨ref :: refs, u, .next h.next hchain,
    List.nodup_cons.mpr ⟨hfresh, hnodup⟩, hstops.mono (List.subset_cons_self _ _)⟩

/-- A schema that is not kept by name is read from where following it ends. -/
theorem schema_congr {fields fields' : Fields}
    (hv : (Value.object fields).link?.bind componentName? = none)
    (hw : (Value.object fields').link?.bind componentName? = none)
    (h : Reference.follow root (.object fields) = Reference.follow root (.object fields')) :
    ({ root, source } : Spec).schema (.object fields) =
      ({ root, source } : Spec).schema (.object fields') := by
  have hobject : ({ root, source } : Spec).objectAt? (.object fields) =
      ({ root, source } : Spec).objectAt? (.object fields') := by
    simp only [objectAt?, look, Bind.bind, Except.bind, Spec.follow, h]
  rw [schema_eq, schemaWith_eq _ _ hv, schema_eq _ (.object fields'), schemaWith_eq _ _ hw, hobject]

theorem Alias.schema_eq_iff (h : Alias root ref t) :
    ({ root, source } : Spec).schema (referring ref) = ({ root, source } : Spec).schema t ↔
      t.link?.bind componentName? = none := by
  obtain ⟨fields, rfl⟩ := h.next.object
  constructor
  · intro he
    cases hname : (Value.object fields).link?.bind componentName? with
    | none => rfl
    | some name =>
      rw [schema_of_kept hname rfl] at he
      obtain ⟨name', hname', -⟩ := kept_of_schema he rfl
      rw [h.link?] at hname'
      cases hname'
  · intro hname
    exact schema_congr h.link? hname h.follow_eq

/-- An alias is read as the value at the end of its chain, whatever references are on it. -/
theorem Alias.schema_eq_of_follow (h : Alias root ref t) (hw : Reference.follow root t = .ok w) :
    ({ root, source } : Spec).schema (referring ref) = ({ root, source } : Spec).schema w := by
  obtain ⟨refs, hchain, -, hno⟩ := follow_eq_ok_iff.mp hw
  obtain ⟨fields, rfl⟩ := hchain.object h.next.object
  have hname : (Value.object fields).link?.bind componentName? = none := by
    refine Option.eq_none_iff_forall_ne_some.mpr fun name hname => ?_
    obtain ⟨ref', hrefers⟩ := refers_of_componentName? hname
    exact hno ref' hrefers
  have hend : Reference.follow root (.object fields) = .ok (.object fields) :=
    follow_eq_ok_iff.mpr ⟨[], .here, List.nodup_nil, hno⟩
  exact schema_congr h.link? hname (h.follow_eq.trans (hw.trans hend.symm))

/-- A reference in a plain specification is transparent if and only if it does not lead to a
reference to a component; in any case the end of its chain is read in its place. -/
theorem transparent_iff (root : Value) (source ref : String) :
    (Transparent root source ref ↔ ∀ t, Alias root ref t → t.link?.bind componentName? = none) ∧
      ∀ t w, Alias root ref t → Reference.follow root t = .ok w →
        ({ root, source } : Spec).schema (referring ref) = ({ root, source } : Spec).schema w := by
  refine ⟨⟨?_, ?_⟩, fun t w h hw => h.schema_eq_of_follow hw⟩
  · intro h t ht
    exact ht.schema_eq_iff.mp (h.read t ht)
  · intro h
    refine ⟨fun t ht => ht.schema_eq_iff.mpr (h t ht), fun t name ht hname => ?_⟩
    rw [h t ht] at hname
    cases hname

/-- A pet, and a parameter whose schema is a reference to it. -/
def petParameter : Value :=
  .object [(.text "components", .object
    [(.text "schemas", .object [(.text "Pet", .object
      [(.text "type", .text "object"), (.text "properties",
        .object [(.text "name", .object [(.text "type", .text "string")])])])]),
    (.text "parameters", .object [(.text "pet", .object
      [(.text "name", .text "pet"), (.text "in", .text "query"),
        (.text "schema", referring "#/components/schemas/Pet")])])])]

theorem alias_petParameter : Alias petParameter "#/components/parameters/pet/schema"
    (referring "#/components/schemas/Pet") where
  next := ⟨⟨rfl, ⟨_, rfl⟩⟩, .field rfl (.field rfl (.field rfl (.field rfl .here))), _, rfl⟩
  other := by decide
  ends := not_endless_of_follow_eq_ok rfl

theorem not_transparent_petParameter :
    ¬ Transparent petParameter "<document>" "#/components/parameters/pet/schema" := by
  intro h
  have hname := alias_petParameter.schema_eq_iff.mp (h.read _ alias_petParameter)
  exact absurd hname (by decide)

end Spec

end ApiStubs
