import ApiStubs.Proofs.Library.ClassNames

/-! # Names of properties in a C# model

A property of a C# model is declared under the identifier of its name, and its name is not written
anywhere else. So models keep names apart as far as the identifiers do: two models with other names
have one text if the identifiers and the types are the same, and a referenced name with a line break
in it can even declare properties of its own.
-/

namespace ApiStubs

open Naming Text

namespace CSharp

variable {xs ys : List String} {fields others : List ModelField} {f g : ModelField}
  {d : Descriptor} {namespaceName name x y : String}

/-- The names of a model and of another one, which both have identifiers of their own. -/
structure Rivals (xs ys : List String) : Prop where
  left : (xs.map identifier).Nodup
  right : (ys.map identifier).Nodup
  ne : xs ≠ ys

/-- Models whose fields have these names and any types of a kind have different texts. -/
def KeepsApart (kind : Descriptor → Prop) (namespaceName name : String) (xs ys : List String) :
    Prop :=
  Rivals xs ys → ∀ fields others : List ModelField,
    fields.map (·.name) = xs → others.map (·.name) = ys → (∀ f ∈ fields ++ others, kind f.type) →
      Language.csharp.model namespaceName ⟨name, fields⟩ ≠
        Language.csharp.model namespaceName ⟨name, others⟩

/-- A type that refers to no name with a line break in it. -/
def InLine (d : Descriptor) : Prop :=
  ∀ n ∈ d.names, OneLine n.toList

theorem oneLine_type (h : InLine d) : OneLine (type d).toList := by
  induction d with
  | primitive p => cases p <;> decide
  | array item ih =>
    simp only [type, String.toList_append, oneLine_append]
    exact ⟨⟨by decide, ih h⟩, by decide⟩
  | named name => exact h name (List.mem_singleton_self name)
  | any => exact show OneLine anyName.toList by decide

/-- What comes behind the type of a property. -/
def propertyEnd (name : String) : String :=
  " " ++ identifier name ++ " \x7b get; set; \x7d"

theorem property_eq (f : ModelField) :
    property f = "public " ++ type f.type ++ propertyEnd f.name := by
  simp only [property, propertyEnd, String.append_assoc]

theorem oneLine_propertyEnd (name : String) : OneLine (propertyEnd name).toList := by
  simp only [propertyEnd, String.toList_append, oneLine_append]
  exact ⟨⟨by decide, oneLine_identifier name⟩, by decide⟩

theorem propertyEnd_ne_empty (name : String) : propertyEnd name ≠ "" := by
  simp [propertyEnd, ← String.toList_eq_nil_iff]

theorem isVisible_property (h : InLine f.type) : IsVisible (property f) := by
  refine ⟨?_, 'p', by simp [property], by decide⟩
  rw [property_eq, String.toList_append, String.toList_append, oneLine_append, oneLine_append]
  exact ⟨⟨by decide, oneLine_type h⟩, oneLine_propertyEnd f.name⟩

theorem identifier_eq_marked : identifier = Marked.identifier := rfl

theorem identifier_eq_iff :
    identifier x = identifier y ↔ Marked.spelling x = Marked.spelling y := by
  rw [identifier_eq_marked, Marked.identifier_eq_iff]

theorem blank_not_mem_identifier (name : String) : ' ' ∉ (identifier name).toList := by
  intro hmem
  rw [identifier_eq_marked] at hmem
  rcases Marked.mem_identifier hmem with he | hword
  · exact absurd he (by decide)
  · exact absurd hword (by decide)

/-- The identifier of a property is the last word in front of its accessors. -/
theorem identifier_eq_of_propertyEnd {u v : String}
    (h : u ++ propertyEnd x = v ++ propertyEnd y) : identifier x = identifier y := by
  simp only [propertyEnd, ← String.append_assoc] at h
  have hlists := congrArg String.toList ((String.append_left_inj _).mp h)
  simp only [String.toList_append, List.append_assoc] at hlists
  exact String.toList_inj.mp
    (eq_of_append_cons_eq (blank_not_mem_identifier x) (blank_not_mem_identifier y) hlists)

/-- A model has one text for two lists of fields exactly if their properties are one text behind the
margin. -/
theorem model_eq_iff : Language.csharp.model namespaceName ⟨name, fields⟩ =
    Language.csharp.model namespaceName ⟨name, others⟩ ↔
      indent margin (joinWith "\n" (fields.map property)) =
        indent margin (joinWith "\n" (others.map property)) := by
  simp only [Language.model, model, classFile, String.append_left_inj, String.append_right_inj]

theorem map_eq_of_map_eq {α β γ : Type} {p : α → β} {q : α → γ} {as bs : List α}
    (h : ∀ a ∈ as, ∀ b, p a = p b → q a = q b) (he : as.map p = bs.map p) :
    as.map q = bs.map q := by
  induction as generalizing bs with
  | nil => rw [List.map_eq_nil_iff.mp he.symm, List.map_nil]
  | cons a as ih =>
    match bs with
    | [] => cases he
    | b :: bs =>
      obtain ⟨ha, has⟩ := List.forall_mem_cons.mp h
      obtain ⟨hhead, htail⟩ := List.cons.inj he
      rw [List.map_cons, List.map_cons, ha b hhead, ih has htail]

section InLine

/-- The text of a model of types in a line says what the types and the identifiers are, and nothing
else about the fields. -/
theorem model_eq_iff_of_inLine (h : ∀ f ∈ fields ++ others, InLine f.type) :
    Language.csharp.model namespaceName ⟨name, fields⟩ =
      Language.csharp.model namespaceName ⟨name, others⟩ ↔
        fields.map property = others.map property := by
  obtain ⟨hfields, hothers⟩ := List.forall_mem_append.mp h
  rw [model_eq_iff]
  exact indent_joinWith_inj (by decide)
    (List.forall_mem_map.mpr fun f hf => isVisible_property (hfields f hf))
    (List.forall_mem_map.mpr fun f hf => isVisible_property (hothers f hf))

theorem identifiers_eq_of_properties_eq (h : fields.map property = others.map property) :
    fields.map (fun f => identifier f.name) = others.map fun f => identifier f.name := by
  refine map_eq_of_map_eq (fun f _ g hfg => ?_) h
  rw [property_eq, property_eq] at hfg
  exact identifier_eq_of_propertyEnd hfg

/-- Fields of any type. -/
def untyped (xs : List String) : List ModelField :=
  xs.map fun x => ⟨x, .any⟩

theorem map_name_untyped (xs : List String) : (untyped xs).map (·.name) = xs := by
  simp [untyped, Function.comp_def]

theorem map_property_untyped (xs : List String) : (untyped xs).map property =
    (xs.map identifier).map fun i => "public object " ++ i ++ " \x7b get; set; \x7d" := by
  simp only [untyped, List.map_map]
  refine List.map_congr_left fun x _ => ?_
  have hcut : "public object " = "public " ++ "object" ++ " " := by simp
  rw [Function.comp_apply, Function.comp_apply, hcut]
  rfl

theorem keepsApart_inLine_iff : KeepsApart InLine namespaceName name xs ys ↔
    (Rivals xs ys → xs.map identifier ≠ ys.map identifier) := by
  constructor
  · intro h hrivals hids
    have hany : ∀ zs, ∀ f ∈ untyped zs, InLine f.type := fun zs =>
      List.forall_mem_map.mpr fun z _ => by simp [InLine, Descriptor.names]
    have hproperties : (untyped xs).map property = (untyped ys).map property := by
      rw [map_property_untyped, map_property_untyped, hids]
    exact h hrivals _ _ (map_name_untyped xs) (map_name_untyped ys)
      (List.forall_mem_append.mpr ⟨hany xs, hany ys⟩) (model_eq_iff.mpr (by rw [hproperties]))
  · rintro h hrivals fields others rfl rfl hkind he
    refine h hrivals ?_
    rw [List.map_map, List.map_map]
    exact identifiers_eq_of_properties_eq ((model_eq_iff_of_inLine hkind).mp he)

/-- Among all models of types in a line, names are kept apart from all others exactly if none of
them shares its spelling. -/
theorem forall_keepsApart_iff : (∀ ys, KeepsApart InLine namespaceName name xs ys) ↔
    ((xs.map identifier).Nodup → ∀ x ∈ xs, Marked.IsUnshared x) := by
  simp only [keepsApart_inLine_iff]
  constructor
  · intro h hxs x hx
    refine Marked.isUnshared_iff.mpr fun other he => Decidable.byContradiction fun hne => ?_
    obtain ⟨before, after, rfl⟩ := List.append_of_mem hx
    have hid : identifier x = identifier other := identifier_eq_iff.mpr he.symm
    have hids : (before ++ x :: after).map identifier =
        (before ++ other :: after).map identifier := by
      simp [hid]
    refine h (before ++ other :: after) ⟨hxs, hids ▸ hxs, fun hlists => hne ?_⟩ hids
    exact (List.cons.inj (List.append_cancel_left hlists)).1.symm
  · intro h ys hrivals hids
    refine hrivals.ne ?_
    have hunique : ∀ x ∈ xs, ∀ y, identifier x = identifier y → id x = id y := by
      intro x hx y hxy
      have hshared := Marked.isUnshared_iff.mp (h hrivals.left x hx)
      exact (hshared y (identifier_eq_iff.mp hxy).symm).symm
    simpa using map_eq_of_map_eq hunique hids

end InLine

section AnyType

/-- The start of a type that declares properties on the way and then opens one more. -/
def declaring : List String → String
  | [] => ""
  | z :: zs => "object" ++ propertyEnd z ++ "\npublic " ++ declaring zs

theorem declaring_append (xs ys : List String) :
    declaring (xs ++ ys) = declaring xs ++ declaring ys := by
  induction xs with
  | nil => simp [declaring]
  | cons x xs ih => simp only [List.cons_append, declaring, ih, String.append_assoc]

theorem property_declaring (x z : String) (zs : List String) (t : String) :
    property ⟨x, .named (declaring (z :: zs) ++ t)⟩ =
      property ⟨z, .any⟩ ++ "\n" ++ property ⟨x, .named (declaring zs ++ t)⟩ := by
  have hcut : "\npublic " = "\n" ++ "public " := by simp
  simp only [property_eq, type, anyName, declaring, hcut, String.append_assoc]

/-- Properties in front of a field can be declared by its type. -/
theorem joinWith_declaring (zs : List String) (x : String) (d : Descriptor) (rest : List String) :
    joinWith "\n" ((untyped zs).map property ++ property ⟨x, d⟩ :: rest) =
      joinWith "\n" (property ⟨x, .named (declaring zs ++ type d)⟩ :: rest) := by
  induction zs with
  | nil =>
    have hself : property ⟨x, .named (declaring [] ++ type d)⟩ = property ⟨x, d⟩ := by
      simp only [property_eq, type, declaring, String.empty_append]
    rw [hself]
    rfl
  | cons z zs ih =>
    have hzs : untyped (z :: zs) = ⟨z, .any⟩ :: untyped zs := rfl
    rw [hzs, List.map_cons, List.cons_append, joinWith_cons _ (by simp), ih, property_declaring,
      joinWith_append, joinWith_cons_cons]

/-- Two models of fields whose last identifiers are the same, with one text. -/
theorem exists_model_eq (namespaceName name : String) (xs ys : List String)
    (h : identifier x = identifier y) :
    ∃ fields others, fields.map (·.name) = xs ++ [x] ∧ others.map (·.name) = ys ++ [y] ∧
      Language.csharp.model namespaceName ⟨name, fields⟩ =
        Language.csharp.model namespaceName ⟨name, others⟩ := by
  -- both texts declare `xs`, `ys` and one more: the last type of the one model declares `ys`, and
  -- the first type of the other model declares `xs`
  obtain ⟨w, ws, hws⟩ := List.exists_cons_of_ne_nil (l := ys ++ [y]) (by simp)
  have hlists : xs ++ w :: ws = xs ++ ys ++ [y] := by rw [← hws, List.append_assoc]
  have hothers : (untyped xs).map property ++ property ⟨w, .any⟩ :: (untyped ws).map property =
      (untyped (xs ++ ys)).map property ++ [property ⟨y, .any⟩] := by
    simpa [untyped] using congrArg (fun zs => (untyped zs).map property) hlists
  refine ⟨untyped xs ++ [⟨x, .named (declaring ys ++ type .any)⟩],
    ⟨w, .named (declaring xs ++ type .any)⟩ :: untyped ws, ?_, ?_,
    model_eq_iff.mpr (congrArg (indent margin) ?_)⟩
  · rw [List.map_append, map_name_untyped]
    rfl
  · rw [List.map_cons, map_name_untyped, hws]
  · have hsecond := joinWith_declaring xs w .any ((untyped ws).map property)
    rw [hothers, joinWith_declaring, declaring_append] at hsecond
    rw [List.map_append, List.map_singleton, joinWith_declaring, List.map_cons, ← hsecond]
    simp only [property_eq, propertyEnd, type, h, String.append_assoc]

/-- Also behind the margin, properties end as the last of them does. -/
theorem exists_indent_properties (fields : List ModelField) (f : ModelField) :
    ∃ start, indent margin (joinWith "\n" ((fields ++ [f]).map property)) =
      start ++ propertyEnd f.name := by
  have hjoin : ∃ start, joinWith "\n" ((fields ++ [f]).map property) =
      start ++ propertyEnd f.name := by
    induction fields with
    | nil => exact ⟨_, property_eq f⟩
    | cons g fields ih =>
      obtain ⟨start, hstart⟩ := ih
      refine ⟨property g ++ "\n" ++ start, ?_⟩
      rw [List.cons_append, List.map_cons, joinWith_cons _ (by simp), hstart]
      simp only [String.append_assoc]
  obtain ⟨start, hstart⟩ := hjoin
  rw [hstart]
  exact exists_indent_append (oneLine_propertyEnd f.name) (propertyEnd_ne_empty f.name) start

/-- The text of a model has the identifier of its last property, whatever its types are. -/
theorem getLast?_eq_of_model_eq (h : Language.csharp.model namespaceName ⟨name, fields⟩ =
    Language.csharp.model namespaceName ⟨name, others⟩) :
    (fields.map fun f => identifier f.name).getLast? =
      (others.map fun f => identifier f.name).getLast? := by
  have hempty : ∀ start x, indent margin (joinWith "\n" (([] : List ModelField).map property)) ≠
      start ++ propertyEnd x := by
    intro start x he
    have hnil : start ++ propertyEnd x = "" := he.symm.trans (indent_empty margin)
    exact propertyEnd_ne_empty x (String.append_eq_empty_iff.mp hnil).2
  have htexts := model_eq_iff.mp h
  rcases List.eq_nil_or_concat' fields with rfl | ⟨init, f, rfl⟩ <;>
    rcases List.eq_nil_or_concat' others with rfl | ⟨init', g, rfl⟩
  · rfl
  · obtain ⟨start, hstart⟩ := exists_indent_properties init' g
    exact absurd (htexts.trans hstart) (hempty start g.name)
  · obtain ⟨start, hstart⟩ := exists_indent_properties init f
    exact absurd (htexts.symm.trans hstart) (hempty start f.name)
  · obtain ⟨start, hstart⟩ := exists_indent_properties init f
    obtain ⟨start', hstart'⟩ := exists_indent_properties init' g
    rw [hstart, hstart'] at htexts
    simp [identifier_eq_of_propertyEnd htexts]

theorem keepsApart_any_iff : KeepsApart (fun _ => True) namespaceName name xs ys ↔
    (Rivals xs ys → (xs.map identifier).getLast? ≠ (ys.map identifier).getLast?) := by
  constructor
  · intro h hrivals hlast
    rcases List.eq_nil_or_concat' xs with rfl | ⟨xs, x, rfl⟩ <;>
      rcases List.eq_nil_or_concat' ys with rfl | ⟨ys, y, rfl⟩
    · exact hrivals.ne rfl
    · simp at hlast
    · simp at hlast
    · have hid : identifier x = identifier y := by simpa using hlast
      obtain ⟨fields, others, hfields, hothers, he⟩ := exists_model_eq namespaceName name xs ys hid
      exact h hrivals fields others hfields hothers (fun _ _ => trivial) he
  · rintro h hrivals fields others rfl rfl - he
    refine h hrivals ?_
    rw [List.map_map, List.map_map]
    exact getLast?_eq_of_model_eq he

end AnyType

/-- Whatever their types are, models of different names have different texts if and only if the last
identifiers differ; with types in a line, if and only if the identifiers differ somewhere. So among
all models of types in a line the names have texts of their own exactly if each of them is made of
letters and numbers and has no digit in front. -/
theorem keepsApart_iff (namespaceName name : String) (xs : List String) :
    (∀ ys, KeepsApart (fun _ => True) namespaceName name xs ys ↔
      (Rivals xs ys → (xs.map identifier).getLast? ≠ (ys.map identifier).getLast?)) ∧
    (∀ ys, KeepsApart InLine namespaceName name xs ys ↔
      (Rivals xs ys → xs.map identifier ≠ ys.map identifier)) ∧
    ((∀ ys, KeepsApart InLine namespaceName name xs ys) ↔
      ((xs.map identifier).Nodup → ∀ x ∈ xs, Marked.IsUnshared x)) :=
  ⟨fun _ => keepsApart_any_iff, fun _ => keepsApart_inLine_iff, forall_keepsApart_iff⟩

/-- A hyphen and an underscore, in a property of the same type. -/
theorem not_keepsApart_hyphenated :
    ¬ KeepsApart (fun _ => True) "Ns" "Event" ["created-at"] ["created_at"] := by
  intro h
  have hid : identifier "created-at" = identifier "created_at" := by decide +kernel
  have htexts : property ⟨"created-at", .primitive .string⟩ =
      property ⟨"created_at", .primitive .string⟩ := by
    simp only [property_eq, propertyEnd, hid]
  refine h ⟨by simp, by simp, by decide⟩ [⟨"created-at", .primitive .string⟩]
    [⟨"created_at", .primitive .string⟩] rfl rfl (fun _ _ => trivial) (model_eq_iff.mpr ?_)
  rw [List.map_singleton, List.map_singleton, htexts]

end CSharp

end ApiStubs
