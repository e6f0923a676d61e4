import ApiStubs.Proofs.Text.Percent
import ApiStubs.Reference.Linked
import ApiStubs.Reference.Local
import ApiStubs.Traced

/-! # What a reference denotes

A local reference without escapes has the same tokens whether it is followed or linked. If its
pointer goes through objects that are no references, both ways to resolve a chain of references end
at one value, which the chain denotes.
-/

namespace ApiStubs

namespace Reference

variable {root u v w : Value} {ref : String} {n : Nat}

/-- The tokens behind the two characters that a local reference starts with. -/
def tokens (ref : String) : List String :=
  Pointer.tokens (ref.toList.drop 2)

/-- A walk through objects that are no references and to an object. -/
inductive LeadsTo : List String → Value → Value → Prop where
  | here {fields : Fields} : LeadsTo [] (.object fields) (.object fields)
  | through {fields : Fields} {token : String} {rest : List String} {next v : Value} :
      (Value.object fields).link? = none → Fields.get? fields token = some next →
      LeadsTo rest next v → LeadsTo (token :: rest) (.object fields) v

/-- A reference into the specification whose pointer is written without escapes, has no empty token
and leads to an object. -/
structure IsLocal (root : Value) (ref : String) : Prop where
  start : ∃ rest, ref.toList = '#' :: '/' :: rest
  percent : '%' ∉ ref.toList
  control : ∀ c ∈ ref.toList, 0x20 ≤ c.toNat
  token : "" ∉ tokens ref
  target : ∃ fields, LeadsTo (tokens ref) root (.object fields)

/-- What a value stands for: itself, or what the target of its reference stands for. -/
inductive Denotes (root : Value) : Value → Value → Prop where
  | itself {v : Value} : v.link? = none → Denotes root v v
  | next {v u w : Value} {ref : String} : v.link? = some ref →
      Pointer.resolve (tokens ref) root = some u → Denotes root u w → Denotes root v w

/-- Values whose references are local, and with each of them the target of its reference. -/
structure LocalChains (root : Value) (P : Value → Prop) : Prop where
  isLocal : ∀ v ref, P v → v.link? = some ref → IsLocal root ref
  target : ∀ v ref u, P v → v.link? = some ref →
    Pointer.resolve (tokens ref) root = some u → P u

theorem Denotes.unique (h : Denotes root v u) (h' : Denotes root v w) : u = w := by
  induction h with
  | itself hv =>
    cases h' with
    | itself => rfl
    | next hv' => rw [hv] at hv'; cases hv'
  | next hv ht _ ih =>
    cases h' with
    | itself hv' => rw [hv] at hv'; cases hv'
    | next hv' ht' hd' =>
      obtain rfl := Option.some.inj (hv.symm.trans hv')
      obtain rfl := Option.some.inj (ht.symm.trans ht')
      exact ih hd'

theorem LeadsTo.resolve {pointer : List String} (h : LeadsTo pointer v w) :
    Pointer.resolve pointer v = some w := by
  induction h with
  | here => rfl
  | through _ hget _ ih => rw [Pointer.resolve, hget]; exact ih

/-- A link looks at the values on its way, which are no references and so stand for themselves. -/
theorem LeadsTo.walk {pointer : List String} {look : Value → Except ReadFailure Value}
    {self : Value} {lost : ReadFailure} (h : LeadsTo pointer v w) (hself : self.link? ≠ none)
    (hlook : ∀ u, u.link? = none → look u = .ok u) :
    Link.walk look self lost pointer v = .ok w := by
  induction h with
  | here => rfl
  | @through fields token rest next v hlink hget _ ih =>
    have hother : ¬ ((Value.object fields).link? = self.link? ∧
        (Value.object fields == self) = true) :=
      fun he => hself (he.1 ▸ hlink)
    rw [Link.walk, if_neg hother, hlook _ hlink]
    simp only [Bind.bind, Except.bind, Link.step?, hget]
    exact ih

namespace IsLocal

variable (h : IsLocal root ref)
include h

theorem localRef? (hv : v.link? = some ref) : Reference.localRef? v = some ref := by
  obtain ⟨rest, hrest⟩ := h.start
  simp only [Reference.localRef?, hv, hrest]
  rfl

theorem cleaned : Link.cleaned ref.toList = ref.toList := by
  obtain ⟨rest, hrest⟩ := h.start
  have hdrop : ref.toList.dropWhile (fun c => c.toNat ≤ 0x20) = ref.toList := by
    rw [hrest]
    rfl
  rw [Link.cleaned, hdrop, List.filter_eq_self]
  intro c hc
  have hvisible := h.control c hc
  refine decide_eq_true ⟨?_, ?_, ?_⟩ <;>
  · rintro rfl
    exact absurd hvisible (by decide)

theorem location : Link.location ref = [] := by
  obtain ⟨rest, hrest⟩ := h.start
  rw [Link.location, h.cleaned, hrest]
  rfl

theorem fragment : Link.tokens (Link.fragment ref) = tokens ref := by
  obtain ⟨rest, hrest⟩ := h.start
  have hfragment : Link.fragment ref = '/' :: rest := by
    rw [Link.fragment, h.cleaned, hrest]
    rfl
  have htokens : tokens ref = Pointer.tokens rest := by
    rw [tokens, hrest]
    rfl
  have hslash : rest.dropWhile (fun c => decide (c = '/')) = rest := by
    match hcs : rest with
    | [] => rfl
    | c :: cs =>
      refine List.dropWhile_cons_of_neg fun hc => h.token ?_
      rw [htokens, of_decide_eq_true hc, Pointer.tokens, Text.splitOn, if_pos rfl]
      exact List.mem_cons_self
  have hpercent : '%' ∉ rest := fun hmem => h.percent (hrest ▸ by simp [hmem])
  rw [hfragment, htokens, Link.tokens, List.dropWhile_cons_of_pos (by decide), hslash,
    Text.percentDecode_eq_self hpercent]
  rfl

theorem exists_target : ∃ fields, LeadsTo (tokens ref) root (.object fields) ∧
    Pointer.resolve (tokens ref) root = some (.object fields) := by
  obtain ⟨fields, hleads⟩ := h.target
  exact ⟨fields, hleads, hleads.resolve⟩

end IsLocal

theorem resolve_of_target (hu : target root ref = .ok u) :
    Pointer.resolve (tokens ref) root = some u := by
  unfold target at hu
  split at hu
  · next hresolve => rw [← Except.ok.inj hu]; exact hresolve
  · cases hu
  · cases hu

namespace LocalChains

variable {P : Value → Prop} (h : LocalChains root P)
include h

theorem localRef?_eq (hv : P v) : Reference.localRef? v = v.link? := by
  cases hlink : v.link? with
  | none => rw [Reference.localRef?, hlink]
  | some ref => exact (h.isLocal v ref hv hlink).localRef? hlink

/-- A link that is linked looks at its target, where the walk along its pointer ends. -/
theorem denotes_of_resolveUpTo (hv : P v) (hw : Link.resolveUpTo root n v = .ok w) :
    Denotes root v w := by
  induction n generalizing v with
  | zero =>
    rw [Link.resolveUpTo] at hw
    split at hw
    · next hlink => exact Except.ok.inj hw ▸ .itself hlink
    · cases hw
  | succ n ih =>
    rw [Link.resolveUpTo] at hw
    split at hw
    · next hlink => exact Except.ok.inj hw ▸ .itself hlink
    · next ref hlink =>
      have hlocal := h.isLocal v ref hv hlink
      obtain ⟨fields, hleads, hresolve⟩ := hlocal.exists_target
      have hlook : ∀ u : Value, u.link? = none → Link.resolveUpTo root n u = .ok u := by
        intro u hu
        cases n <;> rw [Link.resolveUpTo, hu]
      have hwalk : ∀ lost, Link.walk (Link.resolveUpTo root n) v lost (tokens ref) root =
          .ok (.object fields) := fun _ => hleads.walk (by simp [hlink]) hlook
      simp only [hlocal.location, hlocal.fragment, hwalk] at hw
      simp only [List.isEmpty_nil, Bool.not_true, Bool.false_eq_true, if_false] at hw
      obtain ⟨u, hu, hw⟩ := except_bind_eq_ok.mp hw
      obtain rfl := Except.ok.inj hu
      split at hw
      · cases hw
      · exact .next hlink hresolve (ih (h.target v ref _ hv hlink hresolve) hw)

/-- A chain that starts at an object ends at one, and no other value starts a chain. -/
theorem object_iff (hv : P v) (hw : Denotes root v w) :
    (∃ fields, v = .object fields) ↔ ∃ fields, w = .object fields := by
  induction hw with
  | itself => rfl
  | @next v u w ref hlink hresolve _ ih =>
    rw [← ih (h.target v ref u hv hlink hresolve)]
    obtain ⟨fields, -, htarget⟩ := (h.isLocal v ref hv hlink).exists_target
    have hu : u = .object fields := Option.some.inj (hresolve.symm.trans htarget)
    have hobject : ∃ fields, v = .object fields := by
      unfold Value.link? at hlink
      split at hlink
      · exact ⟨_, rfl⟩
      · cases hlink
    exact iff_of_true hobject ⟨fields, hu⟩

end LocalChains

end Reference

end ApiStubs
