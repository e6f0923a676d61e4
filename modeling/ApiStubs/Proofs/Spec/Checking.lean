import ApiStubs.Proofs.Spec.Meeting
import Mathlib.Tactic.Common

/-! # Checking that a specification is well linked

A list of values that holds the specification and whatever is met next to one of its members holds
all that the parser meets. Such a list is found step by step, and its links are then checked one by
one.
-/

namespace ApiStubs

namespace Reference

variable {root v w : Value} {ref : String} {n : ℕ}

/-- What a value denotes, through less than `n` references. -/
def denotedUpTo? (root : Value) : ℕ → Value → Option Value
  | 0, _ => none
  | n + 1, v =>
    match v.link? with
    | none => some v
    | some ref => (Pointer.resolve (tokens ref) root).bind (denotedUpTo? root n)

theorem denotes_of_denotedUpTo? (h : denotedUpTo? root n v = some w) : Denotes root v w := by
  induction n generalizing v with
  | zero => cases h
  | succ n ih =>
    rw [denotedUpTo?] at h
    split at h
    · next hlink => exact Option.some.inj h ▸ .itself hlink
    · next ref hlink =>
      obtain ⟨u, hu, h⟩ := Option.bind_eq_some_iff.mp h
      exact .next hlink hu (ih h)

/-- Whether a pointer leads through objects that are no references and to an object. -/
def leads : List String → Value → Bool
  | [], .object _ => true
  | token :: rest, .object fields =>
    (Value.object fields).link?.isNone && (Fields.get? fields token).any (leads rest)
  | _, _ => false

theorem leads_iff {pointer : List String} :
    leads pointer v = true ↔ ∃ fields, LeadsTo pointer v (.object fields) := by
  induction pointer generalizing v with
  | nil =>
    cases v with
    | object fields => exact ⟨fun _ => ⟨fields, .here⟩, fun _ => rfl⟩
    | _ => exact ⟨nofun, fun ⟨_, h⟩ => nomatch h⟩
  | cons token rest ih =>
    cases v with
    | object fields =>
      simp only [leads, Bool.and_eq_true, Option.isNone_iff_eq_none, Option.any_eq_true, ih]
      constructor
      · rintro ⟨hlink, next, hget, inner, h⟩
        exact ⟨inner, .through hlink hget h⟩
      · rintro ⟨inner, h⟩
        cases h with
        | through hlink hget h => exact ⟨hlink, _, hget, inner, h⟩
    | _ => exact ⟨nofun, fun ⟨_, h⟩ => nomatch h⟩

instance (root : Value) (ref : String) : Decidable (IsLocal root ref) :=
  decidable_of_iff
    (['#', '/'] <+: ref.toList ∧ '%' ∉ ref.toList ∧
      (ref.toList.all fun c => decide (0x20 ≤ c.toNat)) = true ∧ "" ∉ tokens ref ∧
      leads (tokens ref) root = true)
    ⟨fun ⟨⟨rest, hstart⟩, percent, control, token, target⟩ =>
      ⟨⟨rest, hstart.symm⟩, percent, by simpa using control, token, leads_iff.mp target⟩,
    fun ⟨⟨rest, hstart⟩, percent, control, token, target⟩ =>
      ⟨⟨rest, hstart.symm⟩, percent, by simpa using control, token, leads_iff.mpr target⟩⟩

end Reference

namespace Spec

open Reference

variable {root v : Value} {role : Role} {n : ℕ} {met : List (Role × Value)}

instance (role : Role) (v : Value) : Decidable (IsKept role v) :=
  inferInstanceAs (Decidable (_ ∧ _))

/-- What is met next in a value that is an object or refers to one. -/
def metIn (root : Value) (n : ℕ) (p : Role × Value) : List (Role × Value) :=
  if IsKept p.1 p.2 then []
  else
    match denotedUpTo? root n p.2 with
    | some (.object fields) => parts root p.1 fields
    | _ => []

/-- What is met next inside a value that is shown. -/
def metInside : Role × Value → List (Role × Value)
  | (.text, .array items) => items.map fun v => (.text, v)
  | (.text, .object fields) => valuesOf .text fields
  | _ => []

/-- The target of a reference. -/
def metAt (root : Value) (p : Role × Value) : List (Role × Value) :=
  if p.1.mayRefer then
    (p.2.link?.bind fun ref => Pointer.resolve (tokens ref) root).toList.map fun v => (.target, v)
  else []

def metNext (root : Value) (n : ℕ) (p : Role × Value) : List (Role × Value) :=
  metIn root n p ++ metInside p ++ metAt root p

/-- What is met in `n` steps, through less than `n` references each. -/
def metUpTo (root : Value) (n : ℕ) : ℕ → List (Role × Value)
  | 0 => [(.document, root)]
  | k + 1 =>
    let met := metUpTo root n k
    met ∪ met.flatMap (metNext root n)

/-- Values that hold the specification and whatever is met next to one of them. -/
structure IsClosed (root : Value) (n : ℕ) (met : List (Role × Value)) : Prop where
  start : (.document, root) ∈ met
  denoted : ∀ p ∈ met, (denotedUpTo? root n p.2).isSome
  next : ∀ p ∈ met, ∀ q ∈ metNext root n p, q ∈ met

instance (root : Value) (n : ℕ) (met : List (Role × Value)) : Decidable (IsClosed root n met) :=
  decidable_of_iff
    ((.document, root) ∈ met ∧ (∀ p ∈ met, (denotedUpTo? root n p.2).isSome) ∧
      ∀ p ∈ met, ∀ q ∈ metNext root n p, q ∈ met)
    ⟨fun ⟨hroot, hdenoted, hnext⟩ => ⟨hroot, hdenoted, hnext⟩,
    fun ⟨hroot, hdenoted, hnext⟩ => ⟨hroot, hdenoted, hnext⟩⟩

theorem IsClosed.mem_of_met (hc : IsClosed root n met) (hm : Met root role v) :
    (role, v) ∈ met := by
  induction hm with
  | root => exact hc.start
  | @part role role' v u fields _ hk hd hu ih =>
    obtain ⟨w, hw⟩ := Option.isSome_iff_exists.mp (hc.denoted _ ih)
    obtain rfl := hd.unique (denotes_of_denotedUpTo? hw)
    refine hc.next _ ih _ (List.mem_append_left _ (List.mem_append_left _ ?_))
    rw [metIn, if_neg hk, hw]
    exact hu
  | item _ hv ih =>
    refine hc.next _ ih _ (List.mem_append_left _ (List.mem_append_right _ ?_))
    exact List.mem_map_of_mem hv
  | field _ hp ih =>
    refine hc.next _ ih _ (List.mem_append_left _ (List.mem_append_right _ ?_))
    exact List.mem_map.mpr ⟨_, hp, rfl⟩
  | target _ hr hlink hresolve ih =>
    refine hc.next _ ih _ (List.mem_append_right _ ?_)
    rw [metAt, if_pos hr]
    refine List.mem_map_of_mem (Option.mem_toList.mpr ?_)
    exact Option.bind_eq_some_iff.mpr ⟨_, hlink, hresolve⟩

/-- It is enough to check the links of the members of such a list. -/
theorem IsClosed.wellLinked (hc : IsClosed root n met)
    (hlinks : ∀ p ∈ met, ∀ ref ∈ p.2.link?, p.1.mayRefer = true ∧ IsLocal root ref) :
    WellLinked root :=
  fun _ _ ref hm hlink => hlinks _ (hc.mem_of_met hm) ref hlink

end Spec

end ApiStubs
