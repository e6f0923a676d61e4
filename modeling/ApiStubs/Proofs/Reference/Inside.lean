import ApiStubs.Proofs.Reference.Denotation
import Mathlib.Tactic.Common

/-! # Values inside values

A value holds no more values than its size, and every reference in one of them is one of its own.
What a pointer or a link leads to is inside the specification, or it is a piece of a text.
-/

namespace ApiStubs

variable {root u v w : Value} {fields : Fields} {name token : String} {pointer : List String}
  {n : ℕ}

namespace Value

/-- A value is inside itself, and what is inside an item or a field is inside the whole. -/
inductive Inside : Value → Value → Prop where
  | itself {v : Value} : Inside v v
  | item {u v : Value} {items : List Value} : v ∈ items → Inside u v → Inside u (.array items)
  | field {u v : Value} {k : Scalar} {fields : Fields} : (k, v) ∈ fields → Inside u v →
      Inside u (.object fields)

theorem Inside.trans (h : Inside u v) (h' : Inside v w) : Inside u w := by
  induction h' with
  | itself => exact h
  | item hv _ ih => exact .item hv ih
  | field hv _ ih => exact .field hv ih

theorem mem_of_get? (h : Fields.get? fields name = some v) : (.text name, v) ∈ fields := by
  induction fields with
  | nil => cases h
  | cons p rest ih =>
    obtain ⟨k, u⟩ := p
    rw [Fields.get?] at h
    split at h
    · next hk =>
      obtain rfl := Option.some.inj h
      rw [hk]
      exact List.mem_cons_self
    · exact List.mem_cons_of_mem _ (ih h)

theorem Inside.of_get? (h : Fields.get? fields name = some v) : Inside v (.object fields) :=
  .field (mem_of_get? h) .itself

section Size

theorem size_lt_sizeItems {items : List Value} (h : v ∈ items) : v.size < sizeItems items := by
  induction items with
  | nil => cases h
  | cons u rest ih =>
    rw [sizeItems]
    rcases List.mem_cons.mp h with rfl | h
    · omega
    · have := ih h
      omega

theorem size_lt_sizeFields {k : Scalar} (h : (k, v) ∈ fields) : v.size < sizeFields fields := by
  induction fields with
  | nil => cases h
  | cons p rest ih =>
    obtain ⟨j, u⟩ := p
    rw [sizeFields]
    rcases List.mem_cons.mp h with h | h
    · obtain ⟨-, rfl⟩ := Prod.mk.inj h
      omega
    · have := ih h
      omega

theorem size_lt_of_mem {k : Scalar} (h : (k, v) ∈ fields) :
    v.size < (Value.object fields).size := by
  have := size_lt_sizeFields h
  rw [size]
  omega

theorem Inside.size_le (h : Inside u v) : u.size ≤ v.size := by
  induction h with
  | itself => exact Nat.le_refl _
  | item hv _ ih =>
    have := size_lt_sizeItems hv
    rw [size]
    omega
  | field hv _ ih =>
    have := size_lt_of_mem hv
    omega

mutual

/-- All values inside a value, itself first. -/
def subvalues : Value → List Value
  | .scalar s => [.scalar s]
  | .array items => .array items :: subvaluesOfItems items
  | .object fields => .object fields :: subvaluesOfFields fields

def subvaluesOfItems : List Value → List Value
  | [] => []
  | v :: rest => v.subvalues ++ subvaluesOfItems rest

def subvaluesOfFields : List (Scalar × Value) → List Value
  | [] => []
  | (_, v) :: rest => v.subvalues ++ subvaluesOfFields rest

end

mutual

theorem length_subvalues_le : ∀ v : Value, v.subvalues.length ≤ v.size
  | .scalar _ => Nat.le_refl _
  | .array items => Nat.succ_le_succ (length_subvaluesOfItems_le items)
  | .object fields => Nat.succ_le_succ (length_subvaluesOfFields_le fields)

theorem length_subvaluesOfItems_le :
    ∀ items : List Value, (subvaluesOfItems items).length ≤ sizeItems items
  | [] => Nat.le_refl _
  | v :: rest => by
    rw [subvaluesOfItems, sizeItems, List.length_append]
    have := length_subvalues_le v
    have := length_subvaluesOfItems_le rest
    omega

theorem length_subvaluesOfFields_le :
    ∀ fields : List (Scalar × Value), (subvaluesOfFields fields).length ≤ sizeFields fields
  | [] => Nat.le_refl _
  | (_, v) :: rest => by
    rw [subvaluesOfFields, sizeFields, List.length_append]
    have := length_subvalues_le v
    have := length_subvaluesOfFields_le rest
    omega

end

theorem mem_subvalues_self (v : Value) : v ∈ v.subvalues := by
  cases v <;> simp [subvalues]

theorem mem_subvaluesOfItems {items : List Value} (hv : v ∈ items) (hu : u ∈ v.subvalues) :
    u ∈ subvaluesOfItems items := by
  induction items with
  | nil => cases hv
  | cons w rest ih =>
    rcases List.mem_cons.mp hv with rfl | hv
    · exact List.mem_append_left _ hu
    · exact List.mem_append_right _ (ih hv)

theorem mem_subvaluesOfFields {k : Scalar} (hv : (k, v) ∈ fields) (hu : u ∈ v.subvalues) :
    u ∈ subvaluesOfFields fields := by
  induction fields with
  | nil => cases hv
  | cons p rest ih =>
    rcases List.mem_cons.mp hv with rfl | hv
    · exact List.mem_append_left _ hu
    · exact List.mem_append_right _ (ih hv)

theorem Inside.mem_subvalues (h : Inside u v) : u ∈ v.subvalues := by
  induction h with
  | itself => exact mem_subvalues_self _
  | item hv _ ih => exact List.mem_cons_of_mem _ (mem_subvaluesOfItems hv ih)
  | field hv _ ih => exact List.mem_cons_of_mem _ (mem_subvaluesOfFields hv ih)

end Size

section Links

theorem mem_links_of_link? {ref : String} (h : v.link? = some ref) : ref ∈ v.links := by
  cases v with
  | object fields => rw [links, h]; exact List.mem_cons_self
  | scalar s => cases h
  | array items => cases h

theorem linksFields_subset (fields : Fields) :
    linksFields fields ⊆ (Value.object fields).links := by
  rw [links]
  split
  · exact List.subset_cons_self _ _
  · exact List.Subset.refl _

theorem mem_linksItems {items : List Value} {ref : String} (hv : v ∈ items) (hr : ref ∈ v.links) :
    ref ∈ linksItems items := by
  induction items with
  | nil => cases hv
  | cons w rest ih =>
    rcases List.mem_cons.mp hv with rfl | hv
    · exact List.mem_append_left _ hr
    · exact List.mem_append_right _ (ih hv)

theorem mem_linksFields {k : Scalar} {ref : String} (hv : (k, v) ∈ fields) (hr : ref ∈ v.links) :
    ref ∈ linksFields fields := by
  induction fields with
  | nil => cases hv
  | cons p rest ih =>
    rcases List.mem_cons.mp hv with rfl | hv
    · exact List.mem_append_left _ hr
    · exact List.mem_append_right _ (ih hv)

theorem Inside.links_subset (h : Inside u v) : u.links ⊆ v.links := by
  induction h with
  | itself => exact List.Subset.refl _
  | item hv _ ih => exact fun ref hr => mem_linksItems hv (ih hr)
  | field hv _ ih => exact fun ref hr => linksFields_subset _ (mem_linksFields hv (ih hr))

end Links

end Value

open Value

theorem Pointer.inside_of_resolve (h : resolve pointer v = some w) : Inside w v := by
  induction pointer generalizing v with
  | nil =>
    obtain rfl := Option.some.inj h
    exact .itself
  | cons token rest ih =>
    cases v with
    | object fields =>
      rw [resolve] at h
      split at h
      · next u hu => exact (ih h).trans (.of_get? hu)
      · cases h
    | scalar s => cases h
    | array items => cases h

namespace Link

/-- What a walk may come to: a value inside the specification, or a piece of a text. -/
def Within (root v : Value) : Prop :=
  Inside v root ∨ ∃ s, v = .scalar s

theorem Within.step (h : Within root v) (hw : step? token v = some w) : Within root w := by
  unfold step? at hw
  split at hw
  · next fields =>
    rcases h with h | ⟨s, h⟩
    · exact .inl ((Inside.of_get? hw).trans h)
    · cases h
  · next items =>
    rcases h with h | ⟨s, h⟩
    · obtain ⟨i, -, hi⟩ := Option.bind_eq_some_iff.mp hw
      have hmem : w ∈ items := by
        obtain ⟨-, hi⟩ := Option.ite_none_left_eq_some.mp hi
        exact List.mem_of_getElem? hi
      exact .inl (Inside.trans (.item hmem .itself) h)
    · cases h
  · obtain ⟨i, -, hi⟩ := Option.bind_eq_some_iff.mp hw
    obtain ⟨c, -, rfl⟩ := Option.map_eq_some_iff.mp hi
    exact .inr ⟨_, rfl⟩
  · cases hw

/-- One step of a walk is made from the value that it has come to, or from what that is looked at
as. -/
theorem walk_cons (look : Value → Except ReadFailure Value) (self : Value) (lost : ReadFailure)
    (token : String) (pointer : List String) (v : Value) :
    walk look self lost (token :: pointer) v =
      (if v.link? = self.link? ∧ v == self then .ok v else look v) >>= fun seen =>
        match step? token seen with
        | some next => walk look self lost pointer next
        | none => .error lost := by
  rw [walk]
  split <;> rfl

theorem Within.walk {look : Value → Except ReadFailure Value} {self : Value} {lost : ReadFailure}
    (hlook : ∀ u w, Within root u → look u = .ok w → Within root w) (h : Within root v)
    (hw : Link.walk look self lost pointer v = .ok w) : Within root w := by
  induction pointer generalizing v with
  | nil => exact Except.ok.inj hw ▸ h
  | cons token rest ih =>
    rw [walk_cons] at hw
    obtain ⟨seen, hseen, hw⟩ := except_bind_eq_ok.mp hw
    have hwithin : Within root seen := by
      split at hseen
      · exact Except.ok.inj hseen ▸ h
      · exact hlook v seen h hseen
    split at hw
    · next next hnext => exact ih (hwithin.step hnext) hw
    · cases hw

theorem within_of_resolveUpTo (h : resolveUpTo root n v = .ok w) : w = v ∨ Within root w := by
  induction n generalizing v w with
  | zero =>
    rw [resolveUpTo] at h
    split at h
    · exact .inl (Except.ok.inj h).symm
    · cases h
  | succ n ih =>
    rw [resolveUpTo] at h
    split at h
    · exact .inl (Except.ok.inj h).symm
    · split at h
      · cases h
      · obtain ⟨next, hnext, h⟩ := except_bind_eq_ok.mp h
        have hlook : ∀ u w, Within root u → resolveUpTo root n u = .ok w → Within root w := by
          intro u w hu hw
          rcases ih hw with rfl | hw
          · exact hu
          · exact hw
        have hwithin : Within root next := Within.walk hlook (.inl .itself) hnext
        split at h
        · cases h
        · exact .inr (hlook next w hwithin h)

end Link

end ApiStubs
