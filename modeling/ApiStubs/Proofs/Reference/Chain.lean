import ApiStubs.Proofs.Reference.Inside
import ApiStubs.Spec
import Mathlib.Data.List.Perm.Subperm
import Mathlib.Logic.Function.Iterate

/-! # Chains of references

A local reference leads along its pointer to an object, which may be a local reference itself. From
a value there is one chain, so the places where following it may stop are comparable, and at only
one of them no reference has come twice. A reference comes twice exactly on a chain without end.
-/

namespace ApiStubs

namespace Reference

variable {root u v w : Value} {ref ref' token : String} {pointer refs refs' seen : List String}
  {reason reason' : Unreadable} {n : ℕ}

/-- A way along some tokens, through objects only. -/
inductive Way : List String → Value → Value → Prop where
  | here {v : Value} : Way [] v v
  | field {fields : Fields} {token : String} {rest : List String} {next v : Value} :
      Fields.get? fields token = some next → Way rest next v → Way (token :: rest) (.object fields) v

/-- A value is an object with a reference into the specification. -/
structure Refers (v : Value) (ref : String) : Prop where
  link : v.link? = some ref
  start : ['#', '/'] <+: ref.toList

/-- The object that the pointer of a reference leads to. -/
structure Next (root v : Value) (ref : String) (u : Value) : Prop where
  refers : Refers v ref
  way : Way (tokens ref) root u
  object : ∃ fields, u = .object fields

/-- The references from a value to one behind it, in order. -/
inductive Chain (root : Value) : Value → List String → Value → Prop where
  | here {v : Value} : Chain root v [] v
  | next {v u w : Value} {ref : String} {refs : List String} : Next root v ref u →
      Chain root u refs w → Chain root v (ref :: refs) w

/-- A pointer leads to no object: a token is missing, a value on its way is no object, or the value
at its end is none. -/
inductive Misses (root : Value) (ref : String) : Unreadable → Prop where
  | token {before rest : List String} {token : String} {fields : Fields} :
      tokens ref = before ++ token :: rest → Way before root (.object fields) →
      Fields.get? fields token = none → Misses root ref (.danglingReference ref)
  | through {before rest : List String} {token : String} {u : Value} :
      tokens ref = before ++ token :: rest → Way before root u → (¬ ∃ fields, u = .object fields) →
      Misses root ref (.danglingReference ref)
  | target {u : Value} : Way (tokens ref) root u → (¬ ∃ fields, u = .object fields) →
      Misses root ref (.referenceToScalar ref)

/-- What is wrong with a reference behind others. -/
inductive Fault (root : Value) (refs : List String) (ref : String) : Unreadable → Prop where
  | misses {reason : Unreadable} : Misses root ref reason → Fault root refs ref reason
  | repeated : ref ∈ refs → Fault root refs ref (.circularReference ref)

/-- Where following references stops, and what comes of it. -/
inductive Stops (root : Value) (refs : List String) (u : Value) : Except Unreadable Value → Prop where
  | returned : (∀ ref, ¬ Refers u ref) → Stops root refs u (.ok u)
  | failed {ref : String} {reason : Unreadable} : Refers u ref → Fault root refs ref reason →
      Stops root refs u (.error reason)

/-- The chain of a value goes on without end. -/
def Endless (root v : Value) : Prop :=
  ∃ chain : ℕ → Value, chain 0 = v ∧ ∀ n, ∃ ref, Next root (chain n) ref (chain (n + 1))

section Targets

theorem localRef?_eq_some_iff : localRef? v = some ref ↔ Refers v ref := by
  unfold localRef?
  constructor
  · intro h
    split at h
    · next link hlink =>
      split at h
      · next hstart =>
        obtain rfl := Option.some.inj h
        exact ⟨hlink, Text.isSome_dropStart?_iff.mp hstart⟩
      · cases h
    · cases h
  · rintro ⟨hlink, hstart⟩
    rw [hlink]
    exact if_pos (Text.isSome_dropStart?_iff.mpr hstart)

theorem localRef?_eq_none_iff : localRef? v = none ↔ ∀ ref, ¬ Refers v ref := by
  simp only [← localRef?_eq_some_iff, Option.eq_none_iff_forall_ne_some, ne_eq]

theorem way_iff : Way pointer v w ↔ Pointer.resolve pointer v = some w := by
  constructor
  · intro h
    induction h with
    | here => rfl
    | field hget _ ih => rw [Pointer.resolve, hget]; exact ih
  · intro h
    induction pointer generalizing v with
    | nil => exact Option.some.inj h ▸ .here
    | cons token rest ih =>
      cases v with
      | object fields =>
        rw [Pointer.resolve] at h
        split at h
        · next next hget => exact .field hget (ih h)
        · cases h
      | scalar s => cases h
      | array items => cases h

/-- A walk that does not come to its end stops at a token. -/
theorem exists_of_resolve_eq_none (h : Pointer.resolve pointer v = none) :
    ∃ before token rest u, pointer = before ++ token :: rest ∧ Way before v u ∧
      ∀ fields, u = .object fields → Fields.get? fields token = none := by
  induction pointer generalizing v with
  | nil => cases h
  | cons token rest ih =>
    cases v with
    | object fields =>
      cases hget : Fields.get? fields token with
      | none =>
        refine ⟨[], token, rest, _, rfl, .here, ?_⟩
        rintro _ ⟨⟩
        exact hget
      | some next =>
        rw [Pointer.resolve, hget] at h
        obtain ⟨before, stop, rest, u, rfl, hway, hstop⟩ := ih h
        exact ⟨token :: before, stop, rest, u, rfl, .field hget hway, hstop⟩
    | scalar s => exact ⟨[], token, rest, _, rfl, .here, by rintro _ ⟨⟩⟩
    | array items => exact ⟨[], token, rest, _, rfl, .here, by rintro _ ⟨⟩⟩

theorem resolve_eq_none {before rest : List String} (h : Way before v u)
    (hu : ∀ fields, u = .object fields → Fields.get? fields token = none) :
    Pointer.resolve (before ++ token :: rest) v = none := by
  induction h with
  | here =>
    rename_i v
    cases v with
    | object fields => rw [List.nil_append, Pointer.resolve, hu fields rfl]
    | scalar s => rfl
    | array items => rfl
  | field hget _ ih => rw [List.cons_append, Pointer.resolve, hget]; exact ih hu

theorem target_eq_ok_iff :
    target root ref = .ok u ↔ Way (tokens ref) root u ∧ ∃ fields, u = .object fields := by
  constructor
  · intro h
    refine ⟨way_iff.mpr (resolve_of_target h), ?_⟩
    unfold target at h
    split at h
    · next fields _ => exact ⟨fields, (Except.ok.inj h).symm⟩
    · cases h
    · cases h
  · rintro ⟨hway, fields, rfl⟩
    rw [way_iff, tokens] at hway
    rw [target, hway]

theorem target_eq_error (h : Misses root ref reason) : target root ref = .error reason := by
  have hnone : Pointer.resolve (tokens ref) root = none →
      target root ref = .error (.danglingReference ref) := by
    intro h
    rw [tokens] at h
    rw [target, h]
  cases h with
  | token hsplit hway hget =>
    apply hnone
    rw [hsplit]
    apply resolve_eq_none hway
    rintro _ ⟨⟩
    exact hget
  | through hsplit hway hu =>
    apply hnone
    rw [hsplit]
    apply resolve_eq_none hway
    rintro fields rfl
    exact absurd ⟨fields, rfl⟩ hu
  | @target u hway hu =>
    rw [way_iff, tokens] at hway
    rw [target, hway]
    cases u with
    | object fields => exact absurd ⟨fields, rfl⟩ hu
    | scalar s => rfl
    | array items => rfl

theorem misses_of_target (h : target root ref = .error reason) : Misses root ref reason := by
  unfold target at h
  split at h
  · cases h
  · next hno hw =>
    obtain rfl := Except.error.inj h
    refine .target (way_iff.mpr hw) ?_
    rintro ⟨fields, rfl⟩
    exact hno fields rfl
  · next hnone =>
    obtain rfl := Except.error.inj h
    obtain ⟨before, token, rest, u, hsplit, hway, hstop⟩ := exists_of_resolve_eq_none hnone
    by_cases hu : ∃ fields, u = .object fields
    · obtain ⟨fields, rfl⟩ := hu
      exact .token hsplit hway (hstop fields rfl)
    · exact .through hsplit hway hu

end Targets

section Chains

theorem next_iff : Next root v ref u ↔ Refers v ref ∧ target root ref = .ok u := by
  rw [target_eq_ok_iff]
  constructor
  · rintro ⟨hrefers, hway, hobject⟩; exact ⟨hrefers, hway, hobject⟩
  · rintro ⟨hrefers, hway, hobject⟩; exact ⟨hrefers, hway, hobject⟩

theorem Refers.unique (h : Refers v ref) (h' : Refers v ref') : ref = ref' :=
  Option.some.inj (h.link.symm.trans h'.link)

theorem Next.unique (h : Next root v ref u) (h' : Next root v ref' w) : ref = ref' ∧ u = w := by
  obtain ⟨hrefers, hu⟩ := next_iff.mp h
  obtain ⟨hrefers', hw⟩ := next_iff.mp h'
  obtain rfl := hrefers.unique hrefers'
  exact ⟨rfl, Except.ok.inj (hu.symm.trans hw)⟩

theorem Next.not_misses (h : Next root v ref u) : ¬ Misses root ref reason := by
  intro hmisses
  have htarget := (next_iff.mp h).2
  rw [target_eq_error hmisses] at htarget
  cases htarget

/-- What a reference leads to does not depend on the value that it is in. -/
theorem Next.of_refers (h : Next root v ref u) (hw : Refers w ref) : Next root w ref u :=
  ⟨hw, h.way, h.object⟩

theorem Chain.append (h : Chain root v refs u) (h' : Chain root u refs' w) :
    Chain root v (refs ++ refs') w := by
  induction h with
  | here => exact h'
  | next hnext _ ih => exact .next hnext (ih h')

theorem Chain.split (h : Chain root v (refs ++ refs') w) :
    ∃ u, Chain root v refs u ∧ Chain root u refs' w := by
  induction refs generalizing v with
  | nil => exact ⟨v, .here, h⟩
  | cons ref refs ih =>
    cases h with
    | next hnext hrest =>
      obtain ⟨u, hu, hw⟩ := ih hrest
      exact ⟨u, .next hnext hu, hw⟩

/-- A reference on a chain leads to an object. -/
theorem Chain.exists_next (h : Chain root v refs w) (hr : ref ∈ refs) :
    ∃ u x, Next root u ref x := by
  obtain ⟨before, after, rfl⟩ := List.append_of_mem hr
  obtain ⟨u, -, hrest⟩ := h.split
  cases hrest with
  | next hnext _ => exact ⟨u, _, hnext⟩

/-- There is one chain from a value, which is followed more or less far. -/
theorem Chain.comparable (h : Chain root v refs u) (h' : Chain root v refs' w) :
    (∃ more, refs' = refs ++ more ∧ Chain root u more w) ∨
      ∃ more, refs = refs' ++ more ∧ Chain root w more u := by
  induction h generalizing refs' with
  | here => exact .inl ⟨refs', rfl, h'⟩
  | next hnext hrest ih =>
    cases h' with
    | here => exact .inr ⟨_, rfl, .next hnext hrest⟩
    | next hnext' hrest' =>
      obtain ⟨rfl, rfl⟩ := hnext.unique hnext'
      rcases ih hrest' with ⟨more, rfl, hmore⟩ | ⟨more, rfl, hmore⟩
      · exact .inl ⟨more, rfl, hmore⟩
      · exact .inr ⟨more, rfl, hmore⟩

theorem Next.inside (h : Next root v ref u) : u.Inside root :=
  Pointer.inside_of_resolve (way_iff.mp h.way)

theorem Chain.inside (h : Chain root v refs w) (hv : v.Inside root) :
    refs ⊆ root.links ∧ w.Inside root := by
  induction h with
  | here => exact ⟨List.nil_subset _, hv⟩
  | next hnext _ ih =>
    obtain ⟨hrefs, hw⟩ := ih hnext.inside
    refine ⟨List.cons_subset.mpr ⟨?_, hrefs⟩, hw⟩
    exact hv.links_subset (Value.mem_links_of_link? hnext.refers.link)

theorem Chain.eq_or_inside (h : Chain root v refs w) : w = v ∨ w.Inside root := by
  cases h with
  | here => exact .inl rfl
  | next hnext hrest => exact .inr (hrest.inside hnext.inside).2

theorem LocalChains.denotes_of_chain {P : Value → Prop} (h : LocalChains root P) (hv : P v)
    (hchain : Chain root v refs w) (hw : ∀ ref, ¬ Refers w ref) : Denotes root v w := by
  induction hchain with
  | here =>
    rw [← localRef?_eq_none_iff, h.localRef?_eq hv] at hw
    exact .itself hw
  | next hnext _ ih =>
    have hresolve := way_iff.mp hnext.way
    exact .next hnext.refers.link hresolve (ih (h.target _ _ _ hv hnext.refers.link hresolve) hw)

/-- From an object a chain leads to objects only. -/
theorem Chain.object (h : Chain root v refs w) (hv : ∃ fields, v = .object fields) :
    ∃ fields, w = .object fields := by
  induction h with
  | here => exact hv
  | next hnext _ ih => exact ih hnext.object

/-- Behind the first reference of a chain all are references of the specification. -/
theorem Chain.length_le (h : Chain root v refs w) (hrefs : refs.Nodup) :
    refs.length ≤ root.links.length + 1 := by
  cases h with
  | here => exact Nat.zero_le _
  | next hnext hrest =>
    obtain ⟨hsubset, -⟩ := hrest.inside hnext.inside
    exact Nat.succ_le_succ (List.subperm_of_subset hrefs.of_cons hsubset).length_le

theorem Chain.length_lt (h : Chain root v refs w) (hw : Refers w ref)
    (hrefs : (refs ++ [ref]).Nodup) : refs.length < root.links.length + 1 := by
  cases h with
  | here => exact Nat.succ_pos _
  | next hnext hrest =>
    obtain ⟨hsubset, hinside⟩ := hrest.inside hnext.inside
    rw [List.cons_append] at hrefs
    have hmem := hinside.links_subset (Value.mem_links_of_link? hw.link)
    have hall := List.append_subset.mpr
      ⟨hsubset, List.cons_subset.mpr ⟨hmem, List.nil_subset _⟩⟩
    have hle := (List.subperm_of_subset hrefs.of_cons hall).length_le
    rw [List.length_append, List.length_singleton] at hle
    exact Nat.succ_lt_succ hle

end Chains

section Stopping

theorem Fault.unique (h : Fault root refs ref reason) (h' : Fault root refs ref reason')
    (hrefs : ∀ r ∈ refs, ∃ u x, Next root u r x) : reason = reason' := by
  have hdisjoint : ∀ {reason}, ref ∈ refs → ¬ Misses root ref reason := by
    intro reason hr
    obtain ⟨u, x, hnext⟩ := hrefs ref hr
    exact hnext.not_misses
  rcases h with hmisses | hr <;> rcases h' with hmisses' | hr'
  · exact Except.error.inj ((target_eq_error hmisses).symm.trans (target_eq_error hmisses'))
  · exact absurd hmisses (hdisjoint hr')
  · exact absurd hmisses' (hdisjoint hr)
  · rfl

theorem Stops.unique {r r' : Except Unreadable Value} (h : Stops root refs u r)
    (h' : Stops root refs u r') (hrefs : ∀ ref ∈ refs, ∃ u x, Next root u ref x) : r = r' := by
  rcases h with hu | ⟨hu, hfault⟩ <;> rcases h' with hu' | ⟨hu', hfault'⟩
  · rfl
  · exact absurd hu' (hu _)
  · exact absurd hu (hu' _)
  · obtain rfl := hu.unique hu'
    rw [hfault.unique hfault' hrefs]

theorem Stops.mono {r : Except Unreadable Value} (h : Stops root refs u r) (hrefs : refs ⊆ refs') :
    Stops root refs' u r := by
  rcases h with hu | ⟨hu, hmisses | hr⟩
  · exact .returned hu
  · exact .failed hu (.misses hmisses)
  · exact .failed hu (.repeated (hrefs hr))

/-- Where following stops, the chain goes on only with a reference that has come before. -/
theorem Stops.mem_of_next {r : Except Unreadable Value} (h : Stops root refs u r)
    (hnext : Next root u ref w) : ref ∈ refs := by
  cases h with
  | returned hu => exact absurd hnext.refers (hu ref)
  | failed hu hfault =>
    obtain rfl := hu.unique hnext.refers
    cases hfault with
    | misses hmisses => exact absurd hmisses hnext.not_misses
    | repeated hr => exact hr

/-- On a chain without repetition nothing follows a place where following stops. -/
theorem Stops.eq_nil {r : Except Unreadable Value} (h : Stops root refs u r)
    (hmore : Chain root u refs' w) (hnodup : (refs ++ refs').Nodup) : refs' = [] := by
  cases hmore with
  | here => rfl
  | next hnext _ =>
    exact absurd rfl (List.nodup_append.mp hnodup |>.2.2 _ (h.mem_of_next hnext) _
      List.mem_cons_self)

/-- There is only one way for a value to be followed without repetition. -/
theorem stops_unique {r r' : Except Unreadable Value} (h : Chain root v refs u)
    (hrefs : refs.Nodup) (hstops : Stops root refs u r) (h' : Chain root v refs' w)
    (hrefs' : refs'.Nodup) (hstops' : Stops root refs' w r') : r = r' := by
  have hends : ∀ {refs u r more w r'}, Chain root v refs u → Stops root refs u r →
      Chain root u more w → (refs ++ more).Nodup → Stops root (refs ++ more) w r' → r = r' := by
    intro refs u r more w r' h hstops hmore hnodup hstops'
    obtain rfl := hstops.eq_nil hmore hnodup
    cases hmore
    rw [List.append_nil] at hstops'
    exact hstops.unique hstops' fun ref => h.exists_next
  rcases h.comparable h' with ⟨more, rfl, hmore⟩ | ⟨more, rfl, hmore⟩
  · exact hends h hstops hmore hrefs' hstops'
  · exact (hends h' hstops' hmore hrefs hstops).symm

theorem stops_or_refers (root : Value) (n : ℕ) (seen : List String) (v : Value) :
    Stops root seen v (followUpTo root n seen v) ∨ ∃ ref, Refers v ref ∧ ref ∉ seen := by
  cases hv : localRef? v with
  | none =>
    left
    unfold followUpTo
    rw [hv]
    exact .returned (localRef?_eq_none_iff.mp hv)
  | some ref =>
    have hrefers := localRef?_eq_some_iff.mp hv
    by_cases hr : ref ∈ seen
    · left
      unfold followUpTo
      simp only [hv, List.contains_iff_mem, hr, if_true]
      exact .failed hrefers (.repeated hr)
    · exact .inr ⟨ref, hrefers, hr⟩

theorem followUpTo_succ (hv : Refers v ref) (hr : ref ∉ seen) :
    followUpTo root (n + 1) seen v = target root ref >>= followUpTo root n (ref :: seen) := by
  rw [← localRef?_eq_some_iff] at hv
  rw [followUpTo]
  simp only [hv, List.contains_iff_mem, hr, if_false]

theorem nodup_append_cons : (seen ++ ref :: refs).Nodup ↔ ((ref :: seen) ++ refs).Nodup :=
  List.perm_middle.nodup_iff

/-- Following stops somewhere on the chain if it may follow all references that do not repeat. -/
theorem exists_stop (hseen : seen.Nodup) (hn : ∀ refs u ref, Chain root v refs u → Refers u ref →
    (seen ++ (refs ++ [ref])).Nodup → refs.length < n) :
    ∃ refs u, Chain root v refs u ∧ (seen ++ refs).Nodup ∧
      Stops root (seen ++ refs) u (followUpTo root n seen v) := by
  induction n generalizing seen v with
  | zero =>
    rcases stops_or_refers root 0 seen v with hstops | ⟨ref, hrefers, hr⟩
    · exact ⟨[], v, .here, by simpa using hseen, by simpa using hstops⟩
    · have hfresh : (seen ++ [ref]).Nodup :=
        nodup_append_cons.mpr (by simpa using ⟨hr, hseen⟩)
      exact absurd (hn [] v ref .here hrefers hfresh) (Nat.not_lt_zero _)
  | succ n ih =>
    rcases stops_or_refers root (n + 1) seen v with hstops | ⟨ref, hrefers, hr⟩
    · exact ⟨[], v, .here, by simpa using hseen, by simpa using hstops⟩
    · rw [followUpTo_succ hrefers hr]
      cases ht : target root ref with
      | error reason =>
        have hfault : Fault root seen ref reason := .misses (misses_of_target ht)
        refine ⟨[], v, .here, by simpa using hseen, ?_⟩
        rw [List.append_nil]
        exact .failed hrefers hfault
      | ok u =>
        have hnext : Next root v ref u := next_iff.mpr ⟨hrefers, ht⟩
        have hless : ∀ refs w r, Chain root u refs w → Refers w r →
            ((ref :: seen) ++ (refs ++ [r])).Nodup → refs.length < n := by
          intro refs w r hchain hw hfresh
          exact Nat.lt_of_succ_lt_succ
            (hn (ref :: refs) w r (.next hnext hchain) hw (nodup_append_cons.mpr hfresh))
        obtain ⟨refs, w, hchain, hnodup, hstops⟩ := ih (List.nodup_cons.mpr ⟨hr, hseen⟩) hless
        refine ⟨ref :: refs, w, .next hnext hchain, nodup_append_cons.mpr hnodup, ?_⟩
        exact hstops.mono List.perm_middle.symm.subset

/-- Following a value stops on its chain, where no reference has come twice. -/
theorem followUpTo_eq_iff {r : Except Unreadable Value} (hn : root.links.length < n) :
    followUpTo root n [] v = r ↔
      ∃ refs u, Chain root v refs u ∧ refs.Nodup ∧ Stops root refs u r := by
  have hlength : ∀ refs u ref, Chain root v refs u → Refers u ref → ([] ++ (refs ++ [ref])).Nodup →
      refs.length < n :=
    fun refs u ref hchain hu hfresh => Nat.lt_of_lt_of_le (hchain.length_lt hu hfresh) hn
  obtain ⟨refs, u, hchain, hnodup, hstops⟩ := exists_stop List.nodup_nil hlength
  constructor
  · rintro rfl
    exact ⟨refs, u, hchain, hnodup, hstops⟩
  · rintro ⟨refs', u', hchain', hnodup', hstops'⟩
    exact stops_unique hchain hnodup hstops hchain' hnodup' hstops'

theorem follow_eq_iff {r : Except Unreadable Value} :
    follow root v = r ↔ ∃ refs u, Chain root v refs u ∧ refs.Nodup ∧ Stops root refs u r :=
  followUpTo_eq_iff (Nat.lt_succ_self _)

/-- References are followed to the end of the loop, however many are allowed. -/
theorem followUpTo_eq_follow (hn : root.links.length < n) :
    followUpTo root n [] v = follow root v :=
  (followUpTo_eq_iff hn).mpr (follow_eq_iff.mp rfl)

theorem follow_eq_ok_iff : follow root v = .ok w ↔
    ∃ refs, Chain root v refs w ∧ refs.Nodup ∧ ∀ ref, ¬ Refers w ref := by
  rw [follow_eq_iff]
  constructor
  · rintro ⟨refs, u, hchain, hnodup, hstops⟩
    cases hstops with
    | returned hu => exact ⟨refs, hchain, hnodup, hu⟩
  · rintro ⟨refs, hchain, hnodup, hw⟩
    exact ⟨refs, w, hchain, hnodup, .returned hw⟩

theorem follow_eq_error_iff : follow root v = .error reason ↔
    ∃ refs u ref, Chain root v refs u ∧ refs.Nodup ∧ Refers u ref ∧ Fault root refs ref reason := by
  rw [follow_eq_iff]
  constructor
  · rintro ⟨refs, u, hchain, hnodup, hstops⟩
    cases hstops with
    | failed hu hfault => exact ⟨refs, u, _, hchain, hnodup, hu, hfault⟩
  · rintro ⟨refs, u, ref, hchain, hnodup, hu, hfault⟩
    exact ⟨refs, u, hchain, hnodup, .failed hu hfault⟩

/-- A faulty reference anywhere on a chain makes following it fail, also behind a repetition. -/
theorem exists_error_iff : (∃ reason, follow root v = .error reason) ↔
    ∃ refs u ref reason, Chain root v refs u ∧ Refers u ref ∧ Fault root refs ref reason := by
  constructor
  · rintro ⟨reason, h⟩
    obtain ⟨refs, u, ref, hchain, -, hu, hfault⟩ := follow_eq_error_iff.mp h
    exact ⟨refs, u, ref, reason, hchain, hu, hfault⟩
  · rintro ⟨refs, u, ref, reason, hchain, hu, hfault⟩
    cases hfollow : follow root v with
    | error reason => exact ⟨reason, rfl⟩
    | ok w =>
      obtain ⟨refs', hchain', hnodup, hw⟩ := follow_eq_ok_iff.mp hfollow
      rcases hchain'.comparable hchain with ⟨more, rfl, hmore⟩ | ⟨more, rfl, hmore⟩
      · cases hmore with
        | here => exact absurd hu (hw ref)
        | next hnext _ => exact absurd hnext.refers (hw _)
      · have hstops : Stops root refs u (.error reason) := .failed hu hfault
        obtain rfl := hstops.eq_nil hmore hnodup
        cases hmore
        exact absurd hu (hw ref)

end Stopping

section Repetition

theorem endless_of_next {P : Value → Prop} (hv : P v)
    (hnext : ∀ u, P u → ∃ ref w, Next root u ref w ∧ P w) : Endless root v := by
  have hstep : ∀ u : Subtype P, ∃ w : Subtype P, ∃ ref, Next root u ref w := by
    rintro ⟨u, hu⟩
    obtain ⟨ref, w, hnext, hw⟩ := hnext u hu
    exact ⟨⟨w, hw⟩, ref, hnext⟩
  choose step hstep using hstep
  refine ⟨fun n => (step^[n] ⟨v, hv⟩).1, rfl, fun n => ?_⟩
  simp only [Function.iterate_succ_apply']
  exact hstep _

/-- A reference that comes again leads back onto the chain, which goes round from there. -/
theorem Chain.endless (h : Chain root v refs u) (hu : Refers u ref) (hr : ref ∈ refs) :
    Endless root v := by
  obtain ⟨before, after, rfl⟩ := List.append_of_mem hr
  obtain ⟨x, -, hrest⟩ := h.split
  cases hrest with
  | @next _ y _ _ _ hnext hafter =>
    have hback : Next root u ref y := hnext.of_refers hu
    refine endless_of_next (P := fun z => ∃ more, Chain root z more u) ⟨_, h⟩ ?_
    rintro z ⟨more, hmore⟩
    cases hmore with
    | here => exact ⟨ref, y, hback, after, hafter⟩
    | next hz hrest => exact ⟨_, _, hz, _, hrest⟩

theorem exists_repetition_iff :
    (∃ refs u ref, Chain root v refs u ∧ Refers u ref ∧ ref ∈ refs) ↔ Endless root v := by
  constructor
  · rintro ⟨refs, u, ref, h, hu, hr⟩
    exact h.endless hu hr
  · rintro ⟨chain, rfl, hchain⟩
    by_contra hno
    -- without a repetition there are chains of any length
    have hlong : ∀ n, ∃ refs, Chain root (chain 0) refs (chain n) ∧ refs.Nodup ∧
        refs.length = n := by
      intro n
      induction n with
      | zero => exact ⟨[], .here, List.nodup_nil, rfl⟩
      | succ n ih =>
        obtain ⟨refs, hrefs, hnodup, hlength⟩ := ih
        obtain ⟨ref, hnext⟩ := hchain n
        have hr : ref ∉ refs := fun hr => hno ⟨refs, _, ref, hrefs, hnext.refers, hr⟩
        refine ⟨refs ++ [ref], hrefs.append (.next hnext .here), ?_, by simp [hlength]⟩
        exact (List.perm_append_singleton ref refs).nodup_iff.mpr (List.nodup_cons.mpr ⟨hr, hnodup⟩)
    obtain ⟨refs, hrefs, hnodup, hlength⟩ := hlong (root.links.length + 2)
    have := hrefs.length_le hnodup
    omega

theorem not_endless_of_follow_eq_ok (h : follow root v = .ok w) : ¬ Endless root v := by
  intro hendless
  obtain ⟨refs, u, ref, hchain, hu, hr⟩ := exists_repetition_iff.mpr hendless
  obtain ⟨reason, herror⟩ := exists_error_iff.mpr ⟨refs, u, ref, _, hchain, hu, .repeated hr⟩
  cases h.symm.trans herror

end Repetition

end Reference

namespace Spec

open Reference

variable {root v w : Value} {source : String} {failure : ReadFailure}

theorem follow_plain_eq_ok_iff :
    ({ root, source } : Spec).follow v = .ok w ↔ Reference.follow root v = .ok w := by
  unfold Spec.follow
  cases Reference.follow root v <;> simp

theorem follow_plain_eq_error_iff : ({ root, source } : Spec).follow v = .error failure ↔
    ∃ reason, failure = .unreadable source reason ∧ Reference.follow root v = .error reason := by
  unfold Spec.follow
  cases Reference.follow root v <;> simp [eq_comm]

/-- In a plain specification following ends after finitely many references. It returns the first
value on the chain that is no reference, if it comes there without a repetition; it fails, with an
unreadable specification, if a pointer of the chain misses or a reference of it comes again; and a
reference comes again exactly on a chain without end. -/
theorem follow_plain_iff (root : Value) (source : String) (v : Value) :
    (∀ n, root.links.length < n → followUpTo root n [] v = Reference.follow root v) ∧
      (∀ w, ({ root, source } : Spec).follow v = .ok w ↔
        ∃ refs, Chain root v refs w ∧ refs.Nodup ∧ ∀ ref, ¬ Refers w ref) ∧
      (∀ failure, ({ root, source } : Spec).follow v = .error failure ↔
        ∃ refs u ref reason, failure = .unreadable source reason ∧ Chain root v refs u ∧
          refs.Nodup ∧ Refers u ref ∧ Fault root refs ref reason) ∧
      ((∃ failure, ({ root, source } : Spec).follow v = .error failure) ↔
        ∃ refs u ref reason, Chain root v refs u ∧ Refers u ref ∧ Fault root refs ref reason) ∧
      ((∃ refs u ref, Chain root v refs u ∧ Refers u ref ∧ ref ∈ refs) ↔ Endless root v) := by
  refine ⟨fun n hn => followUpTo_eq_follow hn, ?_, ?_, ?_, exists_repetition_iff⟩
  · intro w
    rw [follow_plain_eq_ok_iff, follow_eq_ok_iff]
  · intro failure
    rw [follow_plain_eq_error_iff]
    constructor
    · rintro ⟨reason, rfl, h⟩
      obtain ⟨refs, u, ref, h⟩ := follow_eq_error_iff.mp h
      exact ⟨refs, u, ref, reason, rfl, h⟩
    · rintro ⟨refs, u, ref, reason, rfl, h⟩
      exact ⟨reason, rfl, follow_eq_error_iff.mpr ⟨refs, u, ref, h⟩⟩
  · rw [← exists_error_iff]
    constructor
    · rintro ⟨failure, h⟩
      obtain ⟨reason, -, h⟩ := follow_plain_eq_error_iff.mp h
      exact ⟨reason, h⟩
    · rintro ⟨reason, h⟩
      exact ⟨_, follow_plain_eq_error_iff.mpr ⟨reason, rfl, h⟩⟩

end Spec

end ApiStubs
