import ApiStubs.Proofs.Spec.Needs

/-! # Which failures are reported

What is found wrong in a specification is reported in two cases only: the specification as a whole
is no object, or it is a plain one and a local reference in it leads to no object. Looking at a link
never fails in a way that is reported.
-/

namespace ApiStubs

namespace Spec

variable {spec : Spec} {d : Need} {source : String} {reason : Unreadable}

/-- Failures that are not reported. -/
def Escapes (e : ReadFailure) : Prop :=
  ∀ source reason, e ≠ .unreadable source reason

/-- A computation fails in one kind of ways only. -/
def Only {α : Type} (P : ReadFailure → Prop) (x : Except ReadFailure α) : Prop :=
  ∀ e, x = .error e → P e

namespace Only

variable {α β : Type} {P : ReadFailure → Prop} {x : Except ReadFailure α}

theorem ok (a : α) : Only P (.ok a : Except ReadFailure α) := by
  intro e he
  cases he

theorem error {e : ReadFailure} (h : P e) : Only P (.error e : Except ReadFailure α) := by
  intro e' he
  exact Except.error.inj he ▸ h

theorem bind {f : α → Except ReadFailure β} (hx : Only P x) (hf : ∀ a, Only P (f a)) :
    Only P (x >>= f) := by
  intro e he
  rcases except_bind_eq_error.mp he with he | ⟨a, -, he⟩
  · exact hx e he
  · exact hf a e he

end Only

section Looking

variable {root : Value}

theorem only_walk {P : ReadFailure → Prop} {look : Value → Except ReadFailure Value} {self : Value}
    {lost : ReadFailure} (hlook : ∀ u, Only P (look u)) (hlost : P lost) (pointer : List String)
    (v : Value) : Only P (Link.walk look self lost pointer v) := by
  induction pointer generalizing v with
  | nil => exact .ok _
  | cons token rest ih =>
    rw [Link.walk_cons]
    apply Only.bind
    · split
      · exact .ok _
      · exact hlook _
    · intro seen
      split
      · exact ih _
      · exact .error hlost

theorem only_resolveUpTo (root : Value) (n : ℕ) (v : Value) :
    Only Escapes (Link.resolveUpTo root n v) := by
  induction n generalizing v with
  | zero =>
    unfold Link.resolveUpTo
    split
    · exact .ok _
    · exact .error (by rintro _ _ ⟨⟩)
  | succ n ih =>
    unfold Link.resolveUpTo
    split
    · exact .ok _
    · split
      · exact .error (by rintro _ _ ⟨⟩)
      · refine (only_walk ih (by rintro _ _ ⟨⟩) _ _).bind fun next => ?_
        split
        · exact .error (by rintro _ _ ⟨⟩)
        · exact ih next

theorem only_look (spec : Spec) (v : Value) : Only Escapes (spec.look v) := by
  unfold look
  split
  · exact .ok v
  · exact only_resolveUpTo _ _ v

theorem only_inner (spec : Spec) (n : ℕ) :
    (∀ outer v, Only Escapes (spec.innerUpTo n outer v)) ∧
    (∀ outer items, Only Escapes (spec.innerItems n outer items)) ∧
    ∀ outer fields, Only Escapes (spec.innerFields n outer fields) := by
  induction n with
  | zero =>
    refine ⟨?_, ?_, ?_⟩ <;>
    · intro _ _
      exact .error (by rintro _ _ ⟨⟩)
  | succ n ih =>
    obtain ⟨ihValue, ihItems, ihFields⟩ := ih
    refine ⟨fun outer v => ?_, fun outer items => ?_, fun outer fields => ?_⟩
    · refine (only_look spec v).bind fun w => ?_
      cases w with
      | scalar s => exact .ok _
      | array items =>
        simp only
        split
        · exact .ok _
        · exact (ihItems _ items).bind fun _ => .ok _
      | object fields =>
        simp only
        split
        · exact .ok _
        · exact (ihFields _ fields).bind fun _ => .ok _
    · cases items with
      | nil => exact .ok _
      | cons v rest =>
        exact (ihValue outer v).bind fun _ => (ihItems outer rest).bind fun _ => .ok _
    · cases fields with
      | nil => exact .ok _
      | cons p rest =>
        exact (ihValue outer p.2).bind fun _ => (ihFields outer rest).bind fun _ => .ok _

theorem only_display (spec : Spec) (v : Value) : Only Escapes (spec.display v) := by
  unfold display
  split
  · exact .ok _
  · refine (only_look spec v).bind fun w => ?_
    cases w with
    | scalar s => exact .ok _
    | array items => exact (only_inner spec _).1 _ _
    | object fields => exact (only_inner spec _).1 _ _

end Looking

section Finding

theorem only_firstType? (spec : Spec) (types : List Value) :
    Only Escapes (spec.firstType? types) := by
  induction types with
  | nil => exact .ok _
  | cons v rest ih =>
    refine (only_look spec v).bind fun w => ?_
    split
    · exact ih
    · exact .ok _

theorem only_typeWord? (spec : Spec) (fields : Fields) : Only Escapes (spec.typeWord? fields) := by
  unfold typeWord?
  split
  · exact .ok _
  · exact .ok _
  · refine (only_look spec _).bind fun w => ?_
    split
    · refine (only_firstType? spec _).bind fun t => ?_
      split
      · exact .ok _
      · exact .ok _
      · exact (only_display spec _).bind fun _ => .ok _
    · exact (only_display spec _).bind fun _ => .ok _

theorem only_section? (spec : Spec) (fields : Fields) (name : String) :
    Only Escapes (spec.section? fields name) := by
  unfold section?
  split
  · exact .ok _
  · exact (only_look spec _).bind fun w => .ok _

theorem only_listField (spec : Spec) (fields : Fields) (name : String) :
    Only Escapes (spec.listField fields name) := by
  unfold listField
  split
  · exact .ok _
  · exact (only_look spec _).bind fun w => .ok _

theorem only_fieldsOf (v : Value) : Only Escapes (fieldsOf v) := by
  unfold fieldsOf
  split
  · exact .ok _
  · exact .error (by rintro _ _ ⟨⟩)

theorem only_membersOf (v : Value) : Only Escapes (membersOf v) := by
  unfold membersOf
  split
  · exact .ok _
  · exact .ok _
  · exact .ok _
  · exact .error (by rintro _ _ ⟨⟩)

theorem only_textField? (fields : Fields) (name : String) :
    Only Escapes (textField? fields name) := by
  unfold textField?
  split
  · exact .ok _
  · exact .ok _
  · exact .ok _
  · exact .error (by rintro _ _ ⟨⟩)

end Finding

section Causes

/-- A reported failure is one of the whole, or of a chain of local references. -/
def IsReportedAt (spec : Spec) (source : String) (reason : Unreadable) : Prop :=
  source = spec.source ∧ ((∃ found, reason = .rootNotObject found ∧
      spec.rootFields = .error (.unreadable source reason)) ∨
    spec.linkage = .plain ∧ ∃ v, Reference.follow spec.root v = .error reason)

theorem isReportedAt_of_rootFields
    (h : spec.rootFields = .error (.unreadable source reason)) :
    IsReportedAt spec source reason := by
  rcases except_bind_eq_error.mp h with hlook | ⟨w, -, hw⟩
  · exact absurd rfl (only_look spec _ _ hlook source reason)
  · split at hw
    · cases hw
    · cases hw
      exact ⟨rfl, .inl ⟨_, rfl, h⟩⟩

theorem isReportedAt_of_objectAt? {v : Value}
    (h : spec.objectAt? v = .error (.unreadable source reason)) :
    IsReportedAt spec source reason := by
  rcases except_bind_eq_error.mp h with hlook | ⟨w, -, hw⟩
  · exact absurd rfl (only_look spec v _ hlook source reason)
  · split at hw
    · rcases except_bind_eq_error.mp hw with hfollow | ⟨u, -, hu⟩
      · unfold follow at hfollow
        split at hfollow
        · next hplain =>
          split at hfollow
          · cases hfollow
          · next hbroken =>
            cases hfollow
            exact ⟨rfl, .inr ⟨hplain, v, hbroken⟩⟩
        · exact absurd rfl (only_resolveUpTo _ _ v _ hfollow source reason)
      · split at hu <;> cases hu
    · cases hw

theorem failureOf_eq_some_iff {α : Type} {x : Except ReadFailure α} {e : ReadFailure} :
    failureOf x = some e ↔ x = .error e := by
  cases x <;> simp [failureOf]

theorem isReportedAt_of_fault? (h : d.fault? spec = some (.unreadable source reason)) :
    IsReportedAt spec source reason := by
  have hno : ∀ {α : Type} {x : Except ReadFailure α}, Only Escapes x →
      failureOf x ≠ some (.unreadable source reason) := by
    intro α x hx he
    exact hx _ (failureOf_eq_some_iff.mp he) source reason rfl
  cases d with
  | root => exact isReportedAt_of_rootFields (failureOf_eq_some_iff.mp h)
  | object v => exact isReportedAt_of_objectAt? (failureOf_eq_some_iff.mp h)
  | look v => exact absurd h (hno (only_look spec v))
  | typeWord fields => exact absurd h (hno (only_typeWord? spec fields))
  | shown v => exact absurd h (hno (only_display spec v))
  | present fields name => exact absurd h (hno (only_section? spec fields name))
  | entries fields name =>
    exact absurd h (hno ((only_section? spec fields name).bind only_fieldsOf))
  | list fields name => exact absurd h (hno (only_listField spec fields name))
  | members v => exact absurd h (hno (only_membersOf v))
  | listed fields name =>
    exact absurd h (hno ((only_listField spec fields name).bind only_membersOf))
  | note fields name => exact absurd h (hno (only_textField? fields name))
  | schema | parameter | media | body | operation | route | document => cases h

theorem isReportedAt_of_fails (h : Fails spec d (.unreadable source reason)) :
    IsReportedAt spec source reason := by
  generalize he : ReadFailure.unreadable source reason = e at h
  induction h with
  | here hd =>
    subst he
    exact isReportedAt_of_fault? hd
  | inside _ _ _ ih => exact ih he

end Causes

end Spec

end ApiStubs
