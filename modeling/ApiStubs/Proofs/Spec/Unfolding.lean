import ApiStubs.Proofs.Spec.Looking
import Mathlib.Data.Nat.Find

/-! # Schemas without a bound

The values that are read inside a schema are inside it or inside the specification. Where reading
ends at all, the depths at which the values below each other end are all different, so the bound is
deep enough, and reading a schema satisfies the equation that the bound hides.
-/

namespace ApiStubs

namespace Spec

open Value

variable {spec : Spec} {fields : Fields} {u v w : Value} {n m : ℕ}

/-- What ends without running out of depth ends so with more of it. -/
def Grows {α : Type} (x y : Except ReadFailure α) : Prop :=
  x ≠ .error .endless → y = x

namespace Grows

variable {α β : Type} {x y : Except ReadFailure α} {f g : α → Except ReadFailure β}

theorem refl (x : Except ReadFailure α) : Grows x x := fun _ => rfl

theorem bind (h : Grows x y) (hf : ∀ a, x = .ok a → Grows (f a) (g a)) :
    Grows (x >>= f) (y >>= g) := by
  intro hne
  cases hx : x with
  | error e =>
    rw [h (hx ▸ fun he => hne (by rw [hx, Except.error.inj he]; rfl)), hx]
    rfl
  | ok a =>
    rw [hx] at hne
    rw [h (by simp [hx]), hx]
    exact hf a hx hne

end Grows

/-- The values that are read as schemas among some fields: the items of an array, and every property
of an object. -/
inductive Below (spec : Spec) (fields : Fields) : Value → Prop where
  | items {u : Value} : spec.typeWord? fields = .ok (some "array") →
      Fields.get? fields "items" = some u → Below spec fields u
  | property {u : Value} {k : Scalar} {word : Option String} {properties : Fields} :
      spec.typeWord? fields = .ok word →
      word = some "object" ∨ word = none ∧ (Fields.get? fields "properties").isSome →
      spec.section? fields "properties" = .ok (.object properties) → (k, u) ∈ properties →
      Below spec fields u

/-- A value is read inside another, which is no reference to a component schema. -/
def ReadInside (spec : Spec) (v u : Value) : Prop :=
  v.link?.bind componentName? = none ∧
    ∃ fields, spec.objectAt? v = .ok (some fields) ∧ Below spec fields u

section Growing

variable {read read' : Value → Except ReadFailure Schema}

theorem schemasOf_grows (h : ∀ p ∈ fields, Grows (read p.2) (read' p.2)) :
    Grows (schemasOf read fields) (schemasOf read' fields) := by
  induction fields with
  | nil => exact .refl _
  | cons p rest ih =>
    obtain ⟨hp, hrest⟩ := List.forall_mem_cons.mp h
    exact hp.bind fun s _ => (ih hrest).bind fun others _ => .refl _

theorem fieldsOf_eq_ok (h : fieldsOf v = .ok fields) : v = .object fields := by
  unfold fieldsOf at h
  split at h
  · rw [Except.ok.inj h]
  · cases h

theorem schemaOfFields_grows (h : ∀ u, Below spec fields u → Grows (read u) (read' u)) :
    Grows (spec.schemaOfFields read fields) (spec.schemaOfFields read' fields) := by
  refine (Grows.refl _).bind fun word hword => ?_
  split
  · next harray =>
    split
    · exact .refl _
    · exact .refl _
    · next v hnull hv =>
      exact (h v (.items (harray ▸ hword) hv)).bind fun _ _ => .refl _
  · split
    · next hobject =>
      refine (Grows.refl _).bind fun inner hinner => ?_
      refine (Grows.refl _).bind fun properties hproperties => ?_
      rw [fieldsOf_eq_ok hproperties] at hinner
      refine (schemasOf_grows fun p hp => ?_).bind fun _ _ => .refl _
      exact h p.2 (.property hword hobject hinner hp)
    · exact .refl _

theorem schemaWith_grows (h : ∀ u, ReadInside spec v u → Grows (read u) (read' u)) :
    Grows (spec.schemaWith read v) (spec.schemaWith read' v) := by
  cases hv : v.link?.bind componentName? with
  | some name =>
    unfold schemaWith
    rw [hv]
    exact .refl _
  | none =>
    rw [schemaWith_eq spec read hv, schemaWith_eq spec read' hv]
    refine (Grows.refl _).bind fun o ho => ?_
    cases o with
    | none => exact .refl _
    | some fields => exact schemaOfFields_grows fun u hu => h u ⟨hv, fields, ho, hu⟩

theorem schemaUpTo_grows (spec : Spec) (n : ℕ) (v : Value) :
    Grows (spec.schemaUpTo n v) (spec.schemaUpTo (n + 1) v) := by
  induction n generalizing v with
  | zero => exact fun h => absurd rfl h
  | succ n ih => exact schemaWith_grows fun u _ => ih u

theorem schemaUpTo_mono (hle : m ≤ n) (h : spec.schemaUpTo m v ≠ .error .endless) :
    spec.schemaUpTo n v = spec.schemaUpTo m v := by
  induction n, hle using Nat.le_induction with
  | base => rfl
  | succ n _ ih => rw [schemaUpTo_grows spec n v (ih.symm ▸ h), ih]

end Growing

section Places

/-- What is read below some values is inside the specification or inside the first of them. -/
def Placed (spec : Spec) (start u : Value) : Prop :=
  Inside u spec.root ∨ Inside u start

variable {start : Value}

theorem Placed.of_inside (h : Placed spec start v) (hu : Inside u v) : Placed spec start u :=
  h.imp hu.trans hu.trans

theorem look_eq_self_or_within (hw : spec.look v = .ok w) : w = v ∨ Link.Within spec.root w := by
  unfold look at hw
  split at hw
  · exact .inl (Except.ok.inj hw).symm
  · exact Link.within_of_resolveUpTo hw

theorem follow_eq_self_or_within (hw : spec.follow v = .ok w) :
    w = v ∨ Link.Within spec.root w := by
  unfold follow at hw
  split at hw
  · split at hw
    · next hfollow =>
      obtain ⟨refs, hchain, -⟩ := Reference.follow_eq_ok_iff.mp (Except.ok.inj hw ▸ hfollow)
      exact hchain.eq_or_inside.imp_right .inl
    · cases hw
  · exact Link.within_of_resolveUpTo hw

/-- An object is no piece of a text. -/
theorem Placed.of_object (h : Placed spec start v)
    (hw : Value.object fields = v ∨ Link.Within spec.root (.object fields)) :
    Placed spec start (.object fields) := by
  rcases hw with rfl | hroot | ⟨s, hs⟩
  · exact h
  · exact .inl hroot
  · cases hs

theorem Placed.objectAt? (h : Placed spec start v) (ho : spec.objectAt? v = .ok (some fields)) :
    Placed spec start (.object fields) := by
  obtain ⟨w, -, ho⟩ := except_bind_eq_ok.mp ho
  split at ho
  · obtain ⟨u, hu, ho⟩ := except_bind_eq_ok.mp ho
    split at ho
    · obtain rfl := Option.some.inj (Except.ok.inj ho)
      exact h.of_object (follow_eq_self_or_within hu)
    · cases ho
  · cases ho

theorem Placed.below (h : Placed spec start (.object fields)) (hu : Below spec fields u) :
    Placed spec start u := by
  cases hu with
  | items _ hget => exact h.of_inside (.of_get? hget)
  | @property k word properties _ _ hsection hmem =>
    have hproperties : properties = [] ∨ Placed spec start (.object properties) := by
      unfold section? at hsection
      split at hsection
      · exact .inl (Value.object.inj (Except.ok.inj hsection)).symm
      · next v hget =>
        obtain ⟨w, hw, hsection⟩ := except_bind_eq_ok.mp hsection
        split at hsection
        · exact .inl (Value.object.inj (Except.ok.inj hsection)).symm
        · rw [Except.ok.inj hsection] at hw
          exact .inr ((h.of_inside (.of_get? hget)).of_object (look_eq_self_or_within hw))
    rcases hproperties with rfl | hproperties
    · cases hmem
    · exact hproperties.of_inside (.field hmem .itself)

theorem Placed.readInside (h : Placed spec start v) (hu : ReadInside spec v u) :
    Placed spec start u := by
  obtain ⟨-, fields, hfields, hbelow⟩ := hu
  exact (h.objectAt? hfields).below hbelow

theorem Placed.mem (h : Placed spec start u) : u ∈ spec.root.subvalues ++ start.subvalues :=
  List.mem_append.mpr (h.imp Inside.mem_subvalues Inside.mem_subvalues)

theorem Placed.size_le (h : Placed spec start u) : u.size ≤ spec.schemaBound start := by
  rw [schemaBound]
  rcases h with h | h
  · exact Nat.le_add_right_of_le h.size_le
  · exact Nat.le_add_left_of_le h.size_le

end Places

section Bound

variable {start : Value}

/-- Below a value that ends at one depth and not before there is one that ends a step earlier. -/
theorem exists_readInside (h : spec.schemaUpTo (n + 1) v = .error .endless)
    (h' : spec.schemaUpTo (n + 2) v ≠ .error .endless) :
    ∃ u, ReadInside spec v u ∧ spec.schemaUpTo n u = .error .endless ∧
      spec.schemaUpTo (n + 1) u ≠ .error .endless := by
  by_contra hno
  have hback : ∀ u, ReadInside spec v u →
      Grows (spec.schemaUpTo (n + 1) u) (spec.schemaUpTo n u) := by
    intro u hu hne
    by_cases hn : spec.schemaUpTo n u = .error .endless
    · exact absurd ⟨u, hu, hn, hne⟩ hno
    · exact (schemaUpTo_grows spec n u hn).symm
  have hsame : spec.schemaUpTo (n + 1) v = spec.schemaUpTo (n + 2) v := schemaWith_grows hback h'
  exact h' (hsame ▸ h)

/-- The values at which reading ends at the depths from one to `n + 1`, the deepest first. -/
theorem exists_depths (hv : Placed spec start v) (h : spec.schemaUpTo n v = .error .endless)
    (h' : spec.schemaUpTo (n + 1) v ≠ .error .endless) :
    ∃ l : List Value, l.length = n + 1 ∧ l.Nodup ∧
      ∀ w ∈ l, Placed spec start w ∧ spec.schemaUpTo (n + 1) w ≠ .error .endless := by
  induction n generalizing v with
  | zero => exact ⟨[v], rfl, by simp, by simpa using ⟨hv, h'⟩⟩
  | succ n ih =>
    obtain ⟨u, hu, hn, hn'⟩ := exists_readInside h h'
    obtain ⟨l, hlength, hnodup, hl⟩ := ih (hv.readInside hu) hn hn'
    refine ⟨v :: l, by rw [List.length_cons, hlength], List.nodup_cons.mpr ⟨?_, hnodup⟩, ?_⟩
    · exact fun hmem => (hl v hmem).2 h
    · refine List.forall_mem_cons.mpr ⟨⟨hv, h'⟩, fun w hw => ⟨(hl w hw).1, ?_⟩⟩
      rw [schemaUpTo_grows spec (n + 1) w (hl w hw).2]
      exact (hl w hw).2

/-- The values at different depths are different, and there are no more than the bound says. -/
theorem lt_schemaBound (h : spec.schemaUpTo n v = .error .endless)
    (h' : spec.schemaUpTo (n + 1) v ≠ .error .endless) : n < spec.schemaBound v := by
  obtain ⟨l, hlength, hnodup, hl⟩ := exists_depths (.inr .itself) h h'
  have hsubset : l ⊆ spec.root.subvalues ++ v.subvalues := fun w hw => (hl w hw).1.mem
  have hle := (List.subperm_of_subset hnodup hsubset).length_le
  have := length_subvalues_le spec.root
  have := length_subvalues_le v
  rw [List.length_append] at hle
  rw [schemaBound]
  omega

theorem schema_eq_of_ends (h : spec.schemaUpTo n v ≠ .error .endless) :
    spec.schema v = spec.schemaUpTo n v := by
  classical
  have hex : ∃ n, spec.schemaUpTo n v ≠ .error .endless := ⟨n, h⟩
  obtain ⟨k, hk⟩ : ∃ k, Nat.find hex = k + 1 :=
    Nat.exists_eq_succ_of_ne_zero fun h0 => (h0 ▸ Nat.find_spec hex) rfl
  have hends : spec.schemaUpTo (k + 1) v ≠ .error .endless := hk ▸ Nat.find_spec hex
  have hbefore : spec.schemaUpTo k v = .error .endless :=
    not_not.mp (Nat.find_min hex (by omega))
  have hn : k + 1 ≤ n := hk ▸ Nat.find_min' hex h
  rw [schemaUpTo_mono hn hends, schema, schemaUpTo_mono (lt_schemaBound hbefore hends) hends]

/-- Reading a schema is endless only if no depth is enough for it. -/
theorem schema_eq_endless_iff :
    spec.schema v = .error .endless ↔ ∀ n, spec.schemaUpTo n v = .error .endless := by
  constructor
  · intro h n
    by_contra hn
    exact hn (schema_eq_of_ends hn ▸ h)
  · intro h
    exact h _

theorem schemaUpTo_eq_schema (h : spec.schemaBound v ≤ n) :
    spec.schemaUpTo n v = spec.schema v := by
  by_cases hv : spec.schema v = .error .endless
  · rw [hv, schema_eq_endless_iff.mp hv n]
  · exact schemaUpTo_mono h hv

/-- The equation of the recursion: a schema is read with the reader itself inside it. -/
theorem schema_eq (spec : Spec) (v : Value) : spec.schema v = spec.schemaWith spec.schema v := by
  have hplaced : Placed spec v v := .inr .itself
  have hbelow : ∀ u, ReadInside spec v u →
      spec.schemaUpTo (spec.root.size + spec.schemaBound v) u = spec.schema u := by
    intro u hu
    exact schemaUpTo_eq_schema (Nat.add_le_add_left (hplaced.readInside hu).size_le _)
  rw [← schemaUpTo_eq_schema (v := v) (n := spec.root.size + spec.schemaBound v + 1) (by omega),
    schemaUpTo_succ]
  -- the two readers agree below, so neither side is endless alone
  by_cases hright : spec.schemaWith spec.schema v = .error .endless
  · by_contra hne
    exact hne (schemaWith_grows (fun u hu _ => (hbelow u hu).symm) (hright ▸ hne)).symm
  · exact schemaWith_grows (fun u hu _ => hbelow u hu) hright

end Bound

end Spec

end ApiStubs
