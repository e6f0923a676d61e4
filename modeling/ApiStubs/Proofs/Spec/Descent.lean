import ApiStubs.Proofs.Spec.Unfolding

/-! # Descents

In a plain specification a schema that is read without end has a descent on which one reference is
followed twice. As long as the references on a descent are different, its steps either go to a
smaller value or use up one of the references of the specification.
-/

namespace ApiStubs

namespace Spec

open Value Reference

variable {root u v w : Value} {source : String} {fields : Fields} {refs more : List String} {n : ℕ}

/-- A chain of local references from a value to its end, and the references on it in order. -/
inductive Follows (root : Value) : Value → List String → Value → Prop where
  | here {v : Value} : localRef? v = none → Follows root v [] v
  | next {v u w : Value} {ref : String} {refs : List String} : localRef? v = some ref →
      target root ref = .ok u → Follows root u refs w → Follows root v (ref :: refs) w

/-- The way to a value that is read at some depth inside a schema, and the references that are
followed on it in order. -/
inductive Descent (spec : Spec) (start : Value) : List String → Value → Prop where
  | here : Descent spec start [] start
  | down {v u : Value} {fields : Fields} {refs more : List String} : Descent spec start refs v →
      v.link?.bind componentName? = none → spec.objectAt? v = .ok (some fields) →
      Follows spec.root v more (.object fields) → Below spec fields u →
      Descent spec start (refs ++ more) u

section Endless

variable {read : Value → Except ReadFailure Schema}

theorem firstType?_plain (root : Value) (source : String) (types : List Value) :
    ∃ t, ({ root, source } : Spec).firstType? types = .ok t := by
  induction types with
  | nil => exact ⟨none, rfl⟩
  | cons v rest ih =>
    simp only [firstType?, look, Bind.bind, Except.bind]
    split
    · exact ih
    · exact ⟨some v, rfl⟩

theorem typeWord?_plain (root : Value) (source : String) (fields : Fields) :
    ∃ word, ({ root, source } : Spec).typeWord? fields = .ok word := by
  unfold typeWord?
  split
  · exact ⟨none, rfl⟩
  · exact ⟨none, rfl⟩
  · next v _ _ =>
    cases v with
    | scalar s => exact ⟨_, rfl⟩
    | object inner => exact ⟨_, rfl⟩
    | array types =>
      obtain ⟨t, ht⟩ := firstType?_plain root source types
      simp only [look, Bind.bind, Except.bind, ht]
      split
      · exact ⟨none, rfl⟩
      · exact ⟨none, rfl⟩
      · exact ⟨_, rfl⟩

theorem section?_plain (fields : Fields) (name : String) :
    ({ root, source } : Spec).section? fields name = .ok (sectionAt fields name) := by
  unfold section? sectionAt
  cases Fields.get? fields name <;> rfl

theorem objectAt?_plain_ne_endless : ({ root, source } : Spec).objectAt? v ≠ .error .endless := by
  intro h
  rcases except_bind_eq_error.mp h with h | ⟨w, -, h⟩
  · cases h
  · split at h
    · rcases except_bind_eq_error.mp h with h | ⟨u, -, h⟩
      · simp only [follow] at h
        split at h <;> cases h
      · split at h <;> cases h
    · cases h

theorem exists_of_schemasOf {e : ReadFailure} (h : schemasOf read fields = .error e) :
    ∃ p ∈ fields, read p.2 = .error e := by
  induction fields with
  | nil => cases h
  | cons p rest ih =>
    rcases except_bind_eq_error.mp h with h | ⟨s, -, h⟩
    · exact ⟨p, List.mem_cons_self, h⟩
    · rcases except_bind_eq_error.mp h with h | ⟨others, -, h⟩
      · obtain ⟨q, hq, h⟩ := ih h
        exact ⟨q, List.mem_cons_of_mem _ hq, h⟩
      · cases h

/-- Nothing but a schema below some fields is read without end. -/
theorem exists_below (h : ({ root, source } : Spec).schemaOfFields read fields = .error .endless) :
    ∃ u, Below { root, source } fields u ∧ read u = .error .endless := by
  obtain ⟨word, hword⟩ := typeWord?_plain root source fields
  rcases except_bind_eq_error.mp h with h | ⟨word', hword', h⟩
  · rw [hword] at h
    cases h
  · split at h
    · next harray =>
      split at h
      · cases h
      · cases h
      · next u _ hu =>
        rcases except_bind_eq_error.mp h with h | ⟨s, -, h⟩
        · exact ⟨u, .items (harray ▸ hword') hu, h⟩
        · cases h
    · split at h
      · next hobject =>
        rcases except_bind_eq_error.mp h with h | ⟨inner, hinner, h⟩
        · rw [section?_plain] at h
          cases h
        · rcases except_bind_eq_error.mp h with h | ⟨properties, hproperties, h⟩
          · unfold fieldsOf at h
            split at h <;> cases h
          · rcases except_bind_eq_error.mp h with h | ⟨schemas, -, h⟩
            · obtain ⟨p, hp, h⟩ := exists_of_schemasOf h
              rw [fieldsOf_eq_ok hproperties] at hinner
              exact ⟨p.2, .property hword' hobject hinner hp, h⟩
            · cases h
      · split at h
        · rcases except_bind_eq_error.mp h with h | ⟨format, -, h⟩
          · unfold textField? at h
            split at h <;> cases h
          · cases h
        · cases h

/-- A schema is read without end only if one inside it is. -/
theorem exists_endless (h : ({ root, source } : Spec).schemaWith read v = .error .endless) :
    ∃ u, ReadInside { root, source } v u ∧ read u = .error .endless := by
  cases hv : v.link?.bind componentName? with
  | some name =>
    rw [schemaWith, hv] at h
    rcases except_bind_eq_error.mp h with h | ⟨w, -, h⟩
    · cases h
    · split at h <;> cases h
  | none =>
    rw [schemaWith_eq _ read hv] at h
    rcases except_bind_eq_error.mp h with h | ⟨o, ho, h⟩
    · exact absurd h objectAt?_plain_ne_endless
    · cases o with
      | none => cases h
      | some fields =>
        obtain ⟨u, hu, hread⟩ := exists_below h
        exact ⟨u, ⟨hv, fields, ho, hu⟩, hread⟩

end Endless

section Measure

theorem follows_iff : Follows root v refs w ↔ Chain root v refs w ∧ ∀ ref, ¬ Refers w ref := by
  constructor
  · intro h
    induction h with
    | here hlocal => exact ⟨.here, localRef?_eq_none_iff.mp hlocal⟩
    | next hlocal htarget _ ih =>
      exact ⟨.next (next_iff.mpr ⟨localRef?_eq_some_iff.mp hlocal, htarget⟩) ih.1, ih.2⟩
  · rintro ⟨h, hw⟩
    induction h with
    | here => exact .here (localRef?_eq_none_iff.mpr hw)
    | next hnext _ ih =>
      obtain ⟨hrefers, htarget⟩ := next_iff.mp hnext
      exact .next (localRef?_eq_some_iff.mpr hrefers) htarget (ih hw)

theorem follows_of_objectAt? (h : ({ root, source } : Spec).objectAt? v = .ok (some fields)) :
    ∃ refs, Follows root v refs (.object fields) := by
  obtain ⟨w, -, h⟩ := except_bind_eq_ok.mp h
  split at h
  · obtain ⟨u, hu, h⟩ := except_bind_eq_ok.mp h
    split at h
    · obtain rfl := Option.some.inj (Except.ok.inj h)
      obtain ⟨refs, hchain, -, hend⟩ := follow_eq_ok_iff.mp (follow_plain_eq_ok_iff.mp hu)
      exact ⟨refs, follows_iff.mpr ⟨hchain, hend⟩⟩
    · cases h
  · cases h

/-- The references of a chain are in the value that it starts from or in the specification. -/
theorem Follows.subset (h : Follows root v refs w) : refs ⊆ v.links ++ root.links := by
  obtain ⟨hchain, -⟩ := follows_iff.mp h
  cases hchain with
  | here => exact List.nil_subset _
  | next hnext hrest =>
    obtain ⟨hsubset, -⟩ := hrest.inside hnext.inside
    refine List.cons_subset.mpr ⟨?_, List.Subset.trans hsubset (List.subset_append_right _ _)⟩
    exact List.mem_append_left _ (mem_links_of_link? hnext.refers.link)

/-- What is read below some fields is inside one of them. -/
theorem exists_field_of_below (h : Below { root, source } fields u) :
    ∃ k w, (k, w) ∈ fields ∧ Inside u w := by
  cases h with
  | items _ hget => exact ⟨_, u, mem_of_get? hget, .itself⟩
  | property _ _ hsection hmem =>
    rw [section?_plain] at hsection
    have hinner := fieldsOf_sectionAt (congrArg (· >>= fieldsOf) hsection)
    unfold fieldsUnder at hinner
    split at hinner
    · next inner hget => exact ⟨_, _, mem_of_get? hget, .field (hinner ▸ hmem) .itself⟩
    · rw [hinner] at hmem
      cases hmem

theorem size_pos (v : Value) : 0 < v.size := by
  cases v <;> exact Nat.succ_pos _

theorem Descent.placed (h : Descent { root, source } v refs w) : Placed { root, source } v w := by
  induction h with
  | here => exact .inr .itself
  | down _ hkept hobject _ hbelow ih => exact ih.readInside ⟨hkept, _, hobject, hbelow⟩

theorem Descent.subset (h : Descent { root, source } v refs w) : refs ⊆ v.links ++ root.links := by
  induction h with
  | here => exact List.nil_subset _
  | @down u _ _ refs more hdescent _ _ hfollows _ ih =>
    refine List.append_subset.mpr ⟨ih, fun ref hr => ?_⟩
    rcases List.mem_append.mp (hfollows.subset hr) with hr | hr
    · rcases hdescent.placed with hplace | hplace
      · exact List.mem_append_right _ (hplace.links_subset hr)
      · exact List.mem_append_left _ (hplace.links_subset hr)
    · exact List.mem_append_right _ hr

/-- Below an endless schema there is one at every depth. On the way there each step goes to a
smaller value, unless it follows a reference; then any value of the specification may come next. -/
theorem exists_descent (k : ℕ)
    (h : ({ root, source } : Spec).schemaUpTo (k + n) v = .error .endless) :
    ∃ refs w, Descent { root, source } v refs w ∧
      ({ root, source } : Spec).schemaUpTo n w = .error .endless ∧
      k + w.size ≤ (refs.length + 1) * (root.size + v.size) := by
  induction k generalizing n with
  | zero =>
    rw [Nat.zero_add] at h
    refine ⟨[], v, .here, h, ?_⟩
    rw [List.length_nil]
    omega
  | succ k ih =>
    obtain ⟨refs, w, hdescent, hw, hsize⟩ := ih (n := n + 1) (by rwa [Nat.add_right_comm] at h)
    obtain ⟨u, ⟨hkept, fields, hobject, hbelow⟩, hu⟩ := exists_endless hw
    obtain ⟨more, hfollows⟩ := follows_of_objectAt? hobject
    have hdescent' := hdescent.down hkept hobject hfollows hbelow
    refine ⟨refs ++ more, u, hdescent', hu, ?_⟩
    cases hfollows with
    | here =>
      obtain ⟨_, inner, hmem, hinside⟩ := exists_field_of_below hbelow
      have hsmaller := Nat.lt_of_le_of_lt hinside.size_le (size_lt_of_mem hmem)
      rw [List.append_nil]
      omega
    | @next _ _ _ ref others =>
      have hplace : u.size ≤ root.size + v.size := hdescent'.placed.size_le
      have hsize' : (refs.length + 1) * (root.size + v.size) + (root.size + v.size) ≤
          ((refs ++ ref :: others).length + 1) * (root.size + v.size) := by
        rw [← Nat.succ_mul, List.length_append, List.length_cons]
        apply Nat.mul_le_mul_right
        omega
      have hpos := size_pos w
      omega

/-- An endless schema has a descent that is deeper than any with different references only. -/
theorem exists_repeated (h : ({ root, source } : Spec).schema v = .error .endless) :
    ∃ refs w, Descent { root, source } v refs w ∧ ¬ refs.Nodup := by
  obtain ⟨refs, w, hdescent, -, hsize⟩ := exists_descent
    (((v.links ++ root.links).length + 1) * (root.size + v.size)) (n := 0)
    (schema_eq_endless_iff.mp h _)
  refine ⟨refs, w, hdescent, fun hnodup => ?_⟩
  have hlength := (List.subperm_of_subset hnodup hdescent.subset).length_le
  have hmul := Nat.mul_le_mul_right (root.size + v.size) (Nat.add_le_add_right hlength 1)
  have hpos := size_pos w
  omega

end Measure

/-- Where all references are kept by name, a descent stays inside the value it starts from. -/
theorem Descent.of_kept (hkept : ∀ ref ∈ v.links, componentName? ref ≠ none)
    (h : Descent { root, source } v refs w) : refs = [] ∧ Inside w v := by
  induction h with
  | here => exact ⟨rfl, .itself⟩
  | @down w u fields refs more _ hname hobject hfollows hbelow ih =>
    obtain ⟨rfl, hinside⟩ := ih
    cases hfollows with
    | here =>
      obtain ⟨_, inner, hmem, hbelow⟩ := exists_field_of_below hbelow
      exact ⟨rfl, hbelow.trans (.trans (.field hmem .itself) hinside)⟩
    | next hlocal =>
      have hlink := (localRef?_eq_some_iff.mp hlocal).link
      have hmem := hinside.links_subset (mem_links_of_link? hlink)
      rw [hlink] at hname
      exact absurd hname (hkept _ hmem)

/-- Reading a schema of a plain specification is the recursion that its equation says. It is endless
only if a descent follows one reference twice, and never where all references are to components. -/
theorem schema_endless (root : Value) (source : String) (v : Value) :
    ({ root, source } : Spec).schema v =
        ({ root, source } : Spec).schemaWith ({ root, source } : Spec).schema v ∧
      (({ root, source } : Spec).schema v = .error .endless ↔
        ∀ n, ({ root, source } : Spec).schemaUpTo n v = .error .endless) ∧
      (({ root, source } : Spec).schema v = .error .endless →
        ∃ refs w, Descent { root, source } v refs w ∧ ¬ refs.Nodup) ∧
      ((∀ ref ∈ v.links, componentName? ref ≠ none) →
        ({ root, source } : Spec).schema v ≠ .error .endless) := by
  refine ⟨schema_eq _ v, schema_eq_endless_iff, exists_repeated, fun hkept hendless => ?_⟩
  obtain ⟨refs, w, hdescent, hrepeated⟩ := exists_repeated hendless
  rw [(hdescent.of_kept hkept).1] at hrepeated
  exact hrepeated List.nodup_nil

/-- An object with a property that refers to the object. -/
def selfHolding : Value :=
  .object [(.text "a", .object [(.text "type", .text "object"), (.text "properties",
    .object [(.text "self", .object [(.text "$ref", .text "#/a")])])])]

theorem schema_endless_selfHolding :
    ({ root := selfHolding } : Spec).schema (.object [(.text "$ref", .text "#/a")]) =
        .error .endless ∧
      ∃ refs w, Descent { root := selfHolding } (.object [(.text "$ref", .text "#/a")]) refs w ∧
        ¬ refs.Nodup :=
  ⟨rfl, (schema_endless _ _ _).2.2.1 rfl⟩

end Spec

end ApiStubs
