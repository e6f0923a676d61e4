import ApiStubs.Proofs.Spec.Unfolding
import ApiStubs.Proofs.Text.Percent

/-! # References to component schemas

A reference that is kept by name is named after its text behind the prefix, while its pointer is
read token by token. The name is that of the value which the pointer leads to exactly if the pointer
is the one to the component of this name.
-/

namespace ApiStubs

namespace Link

variable {root v w self : Value} {lost : ReadFailure} {n m : ℕ}
  {look look' : Value → Except ReadFailure Value} {token : String} {pointer : List String}

/-- A walk looks at the value that it starts from, unless that is the link it belongs to. -/
theorem exists_of_walk_cons (h : walk look self lost (token :: pointer) v = .ok w) (hv : v ≠ self) :
    ∃ seen next, look v = .ok seen ∧ step? token seen = some next ∧
      walk look self lost pointer next = .ok w := by
  rw [walk_cons, if_neg fun hself => hv (beq_iff_eq.mp hself.2)] at h
  obtain ⟨seen, hseen, h⟩ := except_bind_eq_ok.mp h
  split at h
  · next next hnext => exact ⟨seen, next, hseen, hnext, h⟩
  · cases h

theorem walk_mono (hlook : ∀ u w, look u = .ok w → look' u = .ok w)
    (h : walk look self lost pointer v = .ok w) : walk look' self lost pointer v = .ok w := by
  induction pointer generalizing v with
  | nil => exact h
  | cons token rest ih =>
    rw [walk_cons] at h ⊢
    obtain ⟨seen, hseen, h⟩ := except_bind_eq_ok.mp h
    refine except_bind_eq_ok.mpr ⟨seen, ?_, ?_⟩
    · split at hseen
      · next hself => rw [if_pos hself, hseen]
      · next hself => rw [if_neg hself, hlook v seen hseen]
    · cases hnext : step? token seen with
      | none => rw [hnext] at h; exact h
      | some next => rw [hnext] at h; exact ih h

/-- What a link stands for does not depend on how many links may be inside each other. -/
theorem resolveUpTo_succ (h : resolveUpTo root n v = .ok w) :
    resolveUpTo root (n + 1) v = .ok w := by
  induction n generalizing v w with
  | zero =>
    unfold resolveUpTo at h ⊢
    split at h
    · exact h
    · cases h
  | succ n ih =>
    unfold resolveUpTo at h ⊢
    split at h
    · exact h
    · split at h
      · cases h
      · next hlocation =>
        rw [if_neg hlocation]
        obtain ⟨next, hnext, h⟩ := except_bind_eq_ok.mp h
        refine except_bind_eq_ok.mpr ⟨next, walk_mono (fun u w => ih) hnext, ?_⟩
        split at h
        · cases h
        · next hself => rw [if_neg hself]; exact ih h

theorem resolve_eq_ok (h : resolveUpTo root root.links.length v = .ok w) : resolve root v = .ok w :=
  resolveUpTo_succ h

end Link

namespace Spec

variable {spec : Spec} {root v w : Value} {ref name : String} {way : List Value} {schemas : Fields}

/-- The tokens of the pointer of a reference. -/
def pointer : Linkage → String → List String
  | .plain, ref => Reference.tokens ref
  | .linked, ref => Link.tokens (Link.fragment ref)

/-- The pointer of a reference leads to a value. -/
def PointsTo (spec : Spec) (v w : Value) : Prop :=
  match spec.linkage with
  | .plain => ∃ ref, v.link? = some ref ∧
      Pointer.resolve (pointer .plain ref) spec.root = some w
  | .linked => v.link? ≠ none ∧ Link.resolve spec.root v = .ok w

/-- The component schemas, and the values on the way to them. -/
def SchemasOn (spec : Spec) (way : List Value) (schemas : Fields) : Prop :=
  ∃ fields c components s, way = [spec.root, c, s] ∧ spec.look spec.root = .ok (.object fields) ∧
    Fields.get? fields "components" = some c ∧ spec.look c = .ok (.object components) ∧
    Fields.get? components "schemas" = some s ∧ spec.look s = .ok (.object schemas)

/-- A value is the component schema of a name. -/
def IsComponent (spec : Spec) (name : String) (w : Value) : Prop :=
  ∃ way schemas u, SchemasOn spec way schemas ∧ Fields.get? schemas name = some u ∧
    spec.look u = .ok w

/-- A schema that is read as a reference has the name of the component that it points to. -/
def NamesTarget (spec : Spec) (v : Value) : Prop :=
  ∀ s w, spec.schema v = .ok s → s.kind = .reference → PointsTo spec v w →
    ∃ name, s.refName = some name ∧ IsComponent spec name w

/-- In a linked specification the component schemas are an object, and a value is none of those on
the way to them. -/
def Apart (spec : Spec) (v : Value) : Prop :=
  spec.linkage = .linked → ∃ way schemas, SchemasOn spec way schemas ∧ v ∉ way

/-- The pointer of a reference that is kept by name is the one to the component of this name. -/
def IsDirect (linkage : Linkage) (ref : String) : Prop :=
  ∀ name, componentName? ref = some name → pointer linkage ref = ["components", "schemas", name]

section Kept

theorem kind_schemaOfFields {read : Value → Except ReadFailure Schema} {fields : Fields}
    {s : Schema} (h : spec.schemaOfFields read fields = .ok s) : s.kind ≠ .reference := by
  obtain ⟨word, -, h⟩ := except_bind_eq_ok.mp h
  split at h
  · split at h
    · rw [← Except.ok.inj h]; decide
    · rw [← Except.ok.inj h]; decide
    · obtain ⟨items, -, h⟩ := except_bind_eq_ok.mp h
      rw [← Except.ok.inj h]
      simp
  · split at h
    · obtain ⟨inner, -, h⟩ := except_bind_eq_ok.mp h
      obtain ⟨properties, -, h⟩ := except_bind_eq_ok.mp h
      obtain ⟨read, -, h⟩ := except_bind_eq_ok.mp h
      rw [← Except.ok.inj h]
      simp
    · split at h
      · next kind hkind =>
        obtain ⟨format, -, h⟩ := except_bind_eq_ok.mp h
        rw [← Except.ok.inj h]
        obtain ⟨word, -, hkind⟩ := Option.bind_eq_some_iff.mp hkind
        have hmem := List.mem_of_find?_eq_some hkind
        rintro rfl
        exact absurd hmem (by decide)
      · rw [← Except.ok.inj h]
        simp

/-- Only a reference to a component is kept by name, and all others are followed. -/
theorem kept_of_schema {s : Schema} (h : spec.schema v = .ok s) (hkind : s.kind = .reference) :
    ∃ name, v.link?.bind componentName? = some name ∧ s.refName = some name := by
  rw [schema_eq] at h
  cases hname : v.link?.bind componentName? with
  | some name =>
    refine ⟨name, rfl, ?_⟩
    rw [schemaWith, hname] at h
    obtain ⟨w, -, h⟩ := except_bind_eq_ok.mp h
    split at h
    · rw [← Except.ok.inj h]
    · rw [← Except.ok.inj h] at hkind
      cases hkind
  | none =>
    rw [schemaWith_eq _ _ hname] at h
    obtain ⟨o, -, h⟩ := except_bind_eq_ok.mp h
    cases o with
    | none =>
      rw [← Except.ok.inj h] at hkind
      cases hkind
    | some fields => exact absurd hkind (kind_schemaOfFields h)

theorem schema_of_kept {fields : Fields} (hname : v.link?.bind componentName? = some name)
    (hlook : spec.look v = .ok (.object fields)) :
    spec.schema v = .ok { kind := .reference, refName := some name } := by
  rw [schema_eq, schemaWith, hname, hlook]
  rfl

end Kept

section Direct

theorem exists_of_resolve_cons {token : String} {rest : List String}
    (h : Pointer.resolve (token :: rest) v = some w) :
    ∃ fields next, v = .object fields ∧ Fields.get? fields token = some next ∧
      Pointer.resolve rest next = some w := by
  cases v with
  | object fields =>
    rw [Pointer.resolve] at h
    split at h
    · next next hnext => exact ⟨fields, next, rfl, hnext, h⟩
    · cases h
  | scalar s => cases h
  | array items => cases h

theorem isComponent_plain {source : String}
    (h : Pointer.resolve ["components", "schemas", name] root = some w) :
    IsComponent { root, source } name w := by
  obtain ⟨fields, c, rfl, hc, h⟩ := exists_of_resolve_cons h
  obtain ⟨components, s, rfl, hs, h⟩ := exists_of_resolve_cons h
  obtain ⟨schemas, u, rfl, hu, h⟩ := exists_of_resolve_cons h
  obtain rfl := Option.some.inj h
  exact ⟨_, schemas, u, ⟨fields, _, components, _, rfl, rfl, hc, rfl, hs, rfl⟩, hu, rfl⟩

theorem isComponent_linked {source : String} (hv : v.link? = some ref)
    (hdirect : pointer .linked ref = ["components", "schemas", name])
    (hway : SchemasOn { root, source, linkage := .linked } way schemas) (hapart : v ∉ way)
    (hw : Link.resolve root v = .ok w) :
    IsComponent { root, source, linkage := .linked } name w := by
  obtain ⟨fields, c, components, s, rfl, hroot, hc, hcomponents, hs, hschemas⟩ := id hway
  simp only [List.mem_cons, List.not_mem_nil, or_false, not_or] at hapart
  rw [Link.resolve, Link.resolveUpTo, hv] at hw
  simp only at hw
  split at hw
  · cases hw
  · obtain ⟨next, hwalk, hw⟩ := except_bind_eq_ok.mp hw
    have htokens : Link.tokens (Link.fragment ref) = ["components", "schemas", name] := hdirect
    rw [htokens] at hwalk
    -- every value on the way is looked at with less depth, but as the same value
    obtain ⟨seen, c', hseen, hstep, hwalk⟩ := Link.exists_of_walk_cons hwalk (Ne.symm hapart.1)
    obtain rfl := Except.ok.inj ((Link.resolve_eq_ok hseen).symm.trans hroot)
    obtain rfl := Option.some.inj (hstep.symm.trans hc)
    obtain ⟨seen, s', hseen, hstep, hwalk⟩ := Link.exists_of_walk_cons hwalk (Ne.symm hapart.2.1)
    obtain rfl := Except.ok.inj ((Link.resolve_eq_ok hseen).symm.trans hcomponents)
    obtain rfl := Option.some.inj (hstep.symm.trans hs)
    obtain ⟨seen, u, hseen, hstep, hwalk⟩ := Link.exists_of_walk_cons hwalk (Ne.symm hapart.2.2)
    obtain rfl := Except.ok.inj ((Link.resolve_eq_ok hseen).symm.trans hschemas)
    obtain rfl := Except.ok.inj hwalk
    split at hw
    · cases hw
    · exact ⟨_, schemas, _, hway, hstep, Link.resolve_eq_ok hw⟩

/-- If the pointer is the one to the component, the way that it is walked is the way there. -/
theorem namesTarget_of_isDirect (hdirect : IsDirect spec.linkage ref) (hv : v.link? = some ref)
    (hapart : Apart spec v) : NamesTarget spec v := by
  intro s w hs hkind hw
  obtain ⟨name, hname, hrefName⟩ := kept_of_schema hs hkind
  rw [hv] at hname
  have hpointer := hdirect name hname
  refine ⟨name, hrefName, ?_⟩
  obtain ⟨root, linkage, source⟩ := spec
  cases linkage with
  | plain =>
    obtain ⟨ref', hv', hw⟩ := hw
    obtain rfl := Option.some.inj (hv.symm.trans hv')
    exact isComponent_plain (hpointer ▸ hw)
  | linked =>
    obtain ⟨way, schemas, hway, hapart⟩ := hapart rfl
    exact isComponent_linked hv hpointer hway hapart hw.2

end Direct

section Indirect

variable {linkage : Linkage} {rest : List Char} {t : String} {ts : List String}

theorem tokens_components (rest : List Char) :
    Pointer.tokens ("components/schemas/".toList ++ rest) =
      "components" :: "schemas" :: Pointer.tokens rest := rfl

theorem exists_tokens (rest : List Char) : ∃ t ts, Pointer.tokens rest = t :: ts := by
  cases h : Pointer.tokens rest with
  | nil => exact absurd (List.map_eq_nil_iff.mp h) (Text.splitOn_ne_nil _ _)
  | cons t ts => exact ⟨t, ts, rfl⟩

theorem toList_of_componentName? (h : componentName? ref = some name) :
    ∃ rest, ref.toList = "#/components/schemas/".toList ++ rest ∧
      name = String.ofList (Pointer.unescape rest) := by
  obtain ⟨rest, hrest, rfl⟩ := Option.map_eq_some_iff.mp h
  exact ⟨rest, Text.dropStart?_eq_some_iff.mp hrest, rfl⟩

/-- Marks are left out behind the prefix only. -/
theorem exists_cleaned (h : ref.toList = "#/components/schemas/".toList ++ rest) :
    ∃ rest', Link.cleaned ref.toList = "#/components/schemas/".toList ++ rest' := by
  have hstart : ("#/components/schemas/".toList ++ rest).dropWhile (fun c => c.toNat ≤ 0x20) =
      "#/components/schemas/".toList ++ rest := rfl
  rw [Link.cleaned, h, hstart, List.filter_append]
  exact ⟨_, rfl⟩

theorem exists_pointer (linkage : Linkage) (h : componentName? ref = some name) :
    ∃ t ts, pointer linkage ref = "components" :: "schemas" :: t :: ts := by
  obtain ⟨rest, hrest, -⟩ := toList_of_componentName? h
  cases linkage with
  | plain =>
    obtain ⟨t, ts, hts⟩ := exists_tokens rest
    refine ⟨t, ts, ?_⟩
    rw [pointer, Reference.tokens, hrest, ← hts]
    rfl
  | linked =>
    obtain ⟨rest', hcleaned⟩ := exists_cleaned hrest
    obtain ⟨t, ts, hts⟩ := exists_tokens (Text.percentDecode rest')
    refine ⟨t, ts, ?_⟩
    have hfragment : Link.fragment ref = '/' :: ("components/schemas/".toList ++ rest') := by
      rw [Link.fragment, hcleaned]
      rfl
    rw [pointer, hfragment, Link.tokens, if_neg (by simp), ← hts, ← tokens_components,
      ← Text.percentDecode_append (by decide) (List.all_eq_true.mp rfl)]
    rfl

/-- Objects inside each other under the given keys. -/
def nest : List String → Value
  | [] => .object []
  | t :: ts => .object [(.text t, nest ts)]

theorem link?_nest (ts : List String) : (nest ts).link? = none := by
  cases ts with
  | nil => rfl
  | cons t ts =>
    cases ts <;>
    · simp only [nest, Value.link?, Fields.get?]
      split
      · next h => split at h <;> cases h
      · rfl

theorem leadsTo_nest (ts : List String) : Reference.LeadsTo ts (nest ts) (.object []) := by
  induction ts with
  | nil => exact .here
  | cons t ts ih => exact .through (link?_nest (t :: ts)) (if_pos rfl) ih

/-- An object that is a reference. -/
def referring (ref : String) : Value :=
  .object [(.text "$ref", .text ref)]

@[simp] theorem link?_referring (ref : String) : (referring ref).link? = some ref := rfl

theorem nest_ne_referring (ts : List String) : nest ts ≠ referring ref := by
  intro h
  have hlink := link?_nest ts
  rw [h] at hlink
  cases hlink

theorem look_nest (spec : Spec) (ts : List String) : spec.look (nest ts) = .ok (nest ts) :=
  look_eq spec (link?_nest ts)

/-- A reference into objects inside each other leads to the innermost of them. -/
theorem resolve_referring (h : componentName? ref = some name) (hts : pointer .linked ref = ts) :
    Link.resolve (nest ts) (referring ref) = .ok (.object []) := by
  obtain ⟨rest, hrest, -⟩ := toList_of_componentName? h
  obtain ⟨rest', hcleaned⟩ := exists_cleaned hrest
  have hlocation : Link.location ref = [] := by
    rw [Link.location, hcleaned]
    rfl
  have hlook : ∀ n, ∀ u : Value, u.link? = none → Link.resolveUpTo (nest ts) n u = .ok u := by
    intro n u hu
    cases n <;> rw [Link.resolveUpTo, hu]
  rw [Link.resolve, Link.resolveUpTo, link?_referring]
  simp only [hlocation]
  refine except_bind_eq_ok.mpr ⟨.object [], ?_, ?_⟩
  · rw [show Link.tokens (Link.fragment ref) = ts from hts]
    exact (leadsTo_nest ts).walk (by simp) (hlook _)
  · exact hlook _ _ rfl

theorem pointsTo_referring (linkage : Linkage) (h : componentName? ref = some name) :
    PointsTo { root := nest (pointer linkage ref), linkage } (referring ref) (.object []) := by
  cases linkage with
  | plain => exact ⟨ref, rfl, (leadsTo_nest _).resolve⟩
  | linked => exact ⟨by simp, resolve_referring h rfl⟩

theorem schema_referring (linkage : Linkage) (h : componentName? ref = some name) :
    ({ root := nest (pointer linkage ref), linkage } : Spec).schema (referring ref) =
      .ok { kind := .reference, refName := some name } := by
  have hlook : ∃ fields, ({ root := nest (pointer linkage ref), linkage } : Spec).look
      (referring ref) = .ok (.object fields) := by
    cases linkage with
    | plain => exact ⟨_, rfl⟩
    | linked => exact ⟨[], resolve_referring h rfl⟩
  obtain ⟨fields, hfields⟩ := hlook
  exact schema_of_kept h hfields

/-- A specification of component schemas only. -/
def withSchemas (schemas : Fields) : Value :=
  .object [(.text "components", .object [(.text "schemas", .object schemas)])]

/-- The values on the way to the component schemas of such a specification. -/
def wayTo (schemas : Fields) : List Value :=
  [withSchemas schemas, .object [(.text "schemas", .object schemas)], .object schemas]

theorem schemasOn_withSchemas_iff {components : Fields} (hroot : spec.root = withSchemas components)
    (hlink : (Value.object components).link? = none) :
    SchemasOn spec way schemas ↔ schemas = components ∧ way = wayTo components := by
  have hlook : spec.look (.object components) = .ok (.object components) := look_eq spec hlink
  unfold SchemasOn
  rw [hroot, look_eq spec rfl]
  constructor
  · rintro ⟨fields, c, inner, s, rfl, hfields, hc, hinner, hs, hschemas⟩
    obtain rfl := Value.object.inj (Except.ok.inj hfields)
    obtain rfl : .object [(.text "schemas", .object components)] = c := Option.some.inj hc
    rw [look_eq spec rfl] at hinner
    obtain rfl := Value.object.inj (Except.ok.inj hinner)
    obtain rfl : .object components = s := Option.some.inj hs
    rw [hlook] at hschemas
    exact ⟨(Value.object.inj (Except.ok.inj hschemas)).symm, rfl⟩
  · rintro ⟨rfl, rfl⟩
    exact ⟨_, _, _, _, rfl, rfl, rfl, look_eq spec rfl, rfl, hlook⟩

theorem get?_of_isComponent {components : Fields} (hroot : spec.root = withSchemas components)
    (hlink : (Value.object components).link? = none) (h : IsComponent spec name w) :
    ∃ u, Fields.get? components name = some u ∧ spec.look u = .ok w := by
  obtain ⟨way, schemas, u, hway, hu, hw⟩ := h
  obtain ⟨rfl, -⟩ := (schemasOn_withSchemas_iff hroot hlink).mp hway
  exact ⟨u, hu, hw⟩

theorem apart_referring (hroot : spec.root = nest ("components" :: "schemas" :: t :: ts)) :
    Apart spec (referring ref) := by
  have hway : wayTo [(.text t, nest ts)] = [nest ("components" :: "schemas" :: t :: ts),
      nest ("schemas" :: t :: ts), nest (t :: ts)] := rfl
  refine fun _ =>
    ⟨_, _, (schemasOn_withSchemas_iff hroot (link?_nest (t :: ts))).mpr ⟨rfl, rfl⟩, ?_⟩
  simp [hway, (nest_ne_referring _).symm]

/-- The pointer leads to the innermost object, which is the component of this name only if there are
no further tokens. -/
theorem isDirect_of_namesTarget (h : ∀ spec v, spec.linkage = linkage → v.link? = some ref →
    Apart spec v → NamesTarget spec v) : IsDirect linkage ref := by
  intro name hname
  obtain ⟨t, ts, hts⟩ := exists_pointer linkage hname
  have hroot : ({ root := nest (pointer linkage ref), linkage } : Spec).root =
      nest ("components" :: "schemas" :: t :: ts) := by rw [hts]
  obtain ⟨name', hname', hcomponent⟩ :=
    h _ _ rfl rfl (apart_referring hroot) _ _ (schema_referring linkage hname) rfl
      (pointsTo_referring linkage hname)
  obtain rfl := Option.some.inj hname'
  obtain ⟨u, hu, hlook⟩ := get?_of_isComponent hroot (link?_nest (t :: ts)) hcomponent
  rw [Fields.get?] at hu
  split at hu
  · next ht =>
    obtain rfl := Scalar.text.inj ht
    obtain rfl := Option.some.inj hu
    rw [look_nest] at hlook
    cases ts with
    | nil => exact hts
    | cons t' ts => cases Except.ok.inj hlook
  · cases hu

end Indirect

/-- All references written in one way have the names of what they point to if and only if this way
is the direct one; other references are never kept by name. -/
theorem namesTarget_iff (linkage : Linkage) (ref : String) :
    ((∀ spec v, spec.linkage = linkage → v.link? = some ref → Apart spec v →
        NamesTarget spec v) ↔ IsDirect linkage ref) ∧
      (componentName? ref = none → ∀ (spec : Spec) (v : Value) (s : Schema), v.link? = some ref →
        spec.schema v = .ok s → s.kind ≠ .reference) := by
  refine ⟨⟨isDirect_of_namesTarget, ?_⟩, ?_⟩
  · rintro hdirect spec v rfl hv hapart
    exact namesTarget_of_isDirect hdirect hv hapart
  · intro hname spec v s hv hs hkind
    obtain ⟨name, hname', -⟩ := kept_of_schema hs hkind
    rw [hv] at hname'
    cases hname.symm.trans hname'

/-- In a plain specification a reference is direct if nothing behind the prefix is a slash. -/
theorem isDirect_plain_iff : IsDirect .plain ref ↔
    ∀ rest, ref.toList = "#/components/schemas/".toList ++ rest → '/' ∉ rest := by
  have hpointer : ∀ rest, ref.toList = "#/components/schemas/".toList ++ rest →
      pointer .plain ref = "components" :: "schemas" :: Pointer.tokens rest := by
    intro rest hrest
    rw [pointer, Reference.tokens, hrest]
    rfl
  constructor
  · intro h rest hrest hslash
    have hname : componentName? ref = some (String.ofList (Pointer.unescape rest)) := by
      rw [componentName?, hrest, Text.dropStart?_append]
      rfl
    obtain ⟨before, after, rfl⟩ := List.append_of_mem hslash
    have hlength := congrArg List.length ((hpointer _ hrest).symm.trans (h _ hname))
    have hbefore := List.length_pos_iff.mpr (Text.splitOn_ne_nil '/' before)
    have hafter := List.length_pos_iff.mpr (Text.splitOn_ne_nil '/' after)
    simp only [Pointer.tokens, Text.splitOn_append_cons, List.length_cons, List.length_map,
      List.length_append, List.length_nil] at hlength
    omega
  · intro h name hname
    obtain ⟨rest, hrest, rfl⟩ := toList_of_componentName? hname
    rw [hpointer rest hrest, Pointer.tokens, Text.splitOn_of_not_mem (h rest hrest)]
    rfl

theorem not_namesTarget_of_absent {components : Fields} {s : Schema}
    (hroot : spec.root = withSchemas components) (hlink : (Value.object components).link? = none)
    (hs : spec.schema v = .ok s) (hkind : s.kind = .reference) (hname : s.refName = some name)
    (habsent : Fields.get? components name = none) (hw : PointsTo spec v w) :
    ¬ NamesTarget spec v := by
  intro h
  obtain ⟨name', hname', hcomponent⟩ := h s w hs hkind hw
  obtain rfl := Option.some.inj (hname.symm.trans hname')
  obtain ⟨u, hu, -⟩ := get?_of_isComponent hroot hlink hcomponent
  rw [habsent] at hu
  cases hu

/-- A pet with a name, and a schema whose name has a blank. -/
def namedPet : Value :=
  withSchemas
    [(.text "Pet", .object [(.text "type", .text "object"), (.text "properties",
      .object [(.text "name", .object [(.text "type", .text "string")])])]),
    (.text "a b", .object [(.text "type", .text "integer")])]

theorem not_namesTarget_namedPet :
    ¬ NamesTarget { root := namedPet } (referring "#/components/schemas/Pet/properties/name") ∧
      ¬ NamesTarget { root := namedPet, linkage := .linked }
        (referring "#/components/schemas/Pet/properties/name") ∧
      ¬ NamesTarget { root := namedPet, linkage := .linked }
        (referring "#/components/schemas/a%20b") := by
  refine ⟨?_, ?_, ?_⟩
  · exact not_namesTarget_of_absent rfl rfl rfl rfl rfl rfl ⟨_, rfl, rfl⟩
  · exact not_namesTarget_of_absent rfl rfl rfl rfl rfl rfl ⟨by decide, rfl⟩
  · exact not_namesTarget_of_absent rfl rfl rfl rfl rfl rfl ⟨by decide, rfl⟩

end Spec

end ApiStubs
