import ApiStubs.Proofs.Reference.Chain
import ApiStubs.Proofs.Spec.Meeting
import Mathlib.Tactic.Common

/-! # Looking at a specification

In a well linked specification a value that is no reference is looked at, shown and listed as it
stands, whichever way references are resolved. A reference where an object is expected is the object
that it denotes.
-/

namespace ApiStubs

namespace Spec

open Reference

variable {root v w : Value} {role : Role} {spec : Spec} {fields : Fields} {n : ℕ}

/-- The object that a value is or refers to, where one is expected. -/
def objectAt? (spec : Spec) (v : Value) : Except ReadFailure (Option Fields) := do
  match ← spec.look v with
  | .object _ =>
    match ← spec.follow v with
    | .object fields => .ok (some fields)
    | _ => .ok none
  | _ => .ok none

section Forms

variable {β : Type}

theorem objectAt?_bind (spec : Spec) (v : Value) (f : Option Fields → Except ReadFailure β) :
    spec.objectAt? v >>= f = spec.look v >>= fun w =>
      match w with
      | .object _ => spec.follow v >>= fun u =>
        match u with
        | .object fields => f (some fields)
        | _ => f none
      | _ => f none := by
  unfold objectAt?
  cases spec.look v with
  | error e => rfl
  | ok w =>
    cases w with
    | scalar s => rfl
    | array items => rfl
    | object inner =>
      cases hu : spec.follow v with
      | error e => simp [Bind.bind, Except.bind]
      | ok u => cases u <;> simp [Bind.bind, Except.bind]

theorem objectFields_eq (spec : Spec) (v : Value) :
    spec.objectFields v = spec.objectAt? v >>= fun o => .ok (o.getD []) := by
  rewrite [objectAt?_bind]
  rfl

theorem contentOf?_eq (spec : Spec) (v : Value) :
    spec.contentOf? v = spec.objectAt? v >>= fun o =>
      match o with
      | some fields => do .ok (some (← spec.content fields))
      | none => .ok none := by
  rewrite [objectAt?_bind]
  rfl

/-- Reads a schema with a reader for the schemas inside it. -/
def schemaWith (spec : Spec) (read : Value → Except ReadFailure Schema) (v : Value) :
    Except ReadFailure Schema := do
  match ← spec.look v with
  | .object _ =>
    match v.link?.bind componentName? with
    | some name => .ok { kind := .reference, refName := some name }
    | none =>
      match ← spec.follow v with
      | .object fields => spec.schemaOfFields read fields
      | _ => .ok {}
  | _ => .ok {}

theorem schemaUpTo_succ (spec : Spec) (n : ℕ) (v : Value) :
    spec.schemaUpTo (n + 1) v = spec.schemaWith (spec.schemaUpTo n) v := rfl

theorem schemaWith_eq (spec : Spec) (read : Value → Except ReadFailure Schema)
    (hv : v.link?.bind componentName? = none) :
    spec.schemaWith read v = spec.objectAt? v >>= fun o =>
      match o with
      | some fields => spec.schemaOfFields read fields
      | none => .ok {} := by
  rewrite [objectAt?_bind, schemaWith, hv]
  rfl

/-- The parameter that some fields describe. -/
def parameterOf? (spec : Spec) (fields : Fields) : Except ReadFailure (Option Parameter) :=
  match Fields.get? fields "name" with
  | none => .ok none
  | some name => do
    let name ← spec.display name
    let location ← spec.displayField fields "in" "query"
    let schema ←
      match Fields.get? fields "schema" with
      | none => .ok {}
      | some v => spec.schema v
    .ok (some ⟨name, location, schema⟩)

theorem outcome_parameter? (spec : Spec) (v : Value) :
    (spec.parameter? v).outcome = spec.objectAt? v >>= fun o =>
      match o with
      | some fields => spec.parameterOf? fields
      | none => .ok none := by
  rw [objectAt?_bind, parameter?, Traced.outcome_bind, Traced.outcome_lift]
  refine congrArg (spec.look v >>= ·) (funext fun w => ?_)
  cases w with
  | scalar s => rfl
  | array items => rfl
  | object inner =>
    simp only [Traced.outcome_bind, Traced.outcome_lift]
    refine congrArg (spec.follow v >>= ·) (funext fun u => ?_)
    cases u with
    | scalar s => rfl
    | array items => rfl
    | object fields =>
      simp only [parameterOf?, displayField]
      cases Fields.get? fields "name" with
      | none => rfl
      | some name =>
        cases Fields.get? fields "in" <;> cases Fields.get? fields "schema" <;> simp

/-- The content of the request of an operation, if it has one. -/
def requestBody? (spec : Spec) (fields : Fields) : Except ReadFailure (Option Content) :=
  match Fields.get? fields "requestBody" with
  | none => .ok none
  | some body => spec.contentOf? body

/-- An operation, once its parameters and the content of its request are known. -/
def answeredOperation (spec : Spec) (verb : Verb) (fields : Fields) (parameters : List Parameter)
    (requestBody : Option Content) : Except ReadFailure Operation := do
  let responses ← fieldsOf (← spec.section? fields "responses")
  let answers ← spec.answersOf responses
  let summary ← textField? fields "summary"
  .ok { verb, parameters, requestBody, responses := Table.ofList answers, summary }

theorem outcome_operation (spec : Spec) (verb : Verb) (shared v : Value) :
    (spec.operation verb shared v).outcome =
      spec.objectFields v >>= fun fields => membersOf shared >>= fun shared =>
        spec.listField fields "parameters" >>= fun list => membersOf list >>= fun own =>
          (spec.parameters shared own).outcome >>= fun parameters =>
            spec.requestBody? fields >>= spec.answeredOperation verb fields parameters := by
  simp only [operation, Traced.outcome_bind, Traced.outcome_lift]
  refine congrArg (spec.objectFields v >>= ·) (funext fun fields => ?_)
  refine congrArg (membersOf shared >>= ·) (funext fun shared => ?_)
  refine congrArg (spec.listField fields "parameters" >>= ·) (funext fun list => ?_)
  refine congrArg (membersOf list >>= ·) (funext fun own => ?_)
  refine congrArg ((spec.parameters shared own).outcome >>= ·) (funext fun parameters => ?_)
  unfold requestBody? answeredOperation
  cases Fields.get? fields "requestBody" <;>
    simp only [Traced.outcome_pure, Traced.outcome_bind, Traced.outcome_lift]

end Forms

section Looking

theorem look_eq (spec : Spec) (h : v.link? = none) : spec.look v = .ok v := by
  unfold look
  split
  · rfl
  · rw [Link.resolve, Link.resolveUpTo, h]

theorem objectAt?_scalar (spec : Spec) (k : Scalar) : spec.objectAt? (.scalar k) = .ok none := by
  rw [objectAt?, look_eq spec rfl]
  rfl

variable (h : WellLinked root)
include h

theorem look_of_met (spec : Spec) (hm : Met root role v) (hr : role.mayRefer = false) :
    spec.look v = .ok v :=
  look_eq spec (h.link?_eq_none hm hr)

variable (hroot : spec.root = root)
include hroot

/-- A value is looked at as it stands or as what it denotes. -/
theorem look_eq_ok (hv : Referring root v) (hw : spec.look v = .ok w) :
    w = v ∨ Denotes root v w := by
  unfold look at hw
  split at hw
  · exact .inl (Except.ok.inj hw).symm
  · rw [hroot] at hw
    exact .inr (h.localChains.denotes_of_resolveUpTo hv hw)

theorem follow_eq_ok (hv : Referring root v) (hw : spec.follow v = .ok w) : Denotes root v w := by
  unfold follow at hw
  rw [hroot] at hw
  split at hw
  · split at hw
    · next hfollow =>
      obtain ⟨refs, hchain, -, hend⟩ := follow_eq_ok_iff.mp (Except.ok.inj hw ▸ hfollow)
      exact h.localChains.denotes_of_chain hv hchain hend
    · cases hw
  · exact h.localChains.denotes_of_resolveUpTo hv hw

theorem object_of_look (hv : Referring root v) (hw : spec.look v = .ok w) :
    (∃ fields, v = .object fields) ↔ ∃ fields, w = .object fields := by
  rcases look_eq_ok h hroot hv hw with rfl | hd
  · rfl
  · exact h.localChains.object_iff hv hd

theorem objectAt?_eq_ok {o : Option Fields} (hv : Referring root v)
    (ho : spec.objectAt? v = .ok o) :
    (∃ fields, o = some fields ∧ Denotes root v (.object fields)) ∨
      o = none ∧ ¬ ∃ fields, v = .object fields := by
  obtain ⟨w, hw, ho⟩ := except_bind_eq_ok.mp ho
  have hobject := object_of_look h hroot hv hw
  split at ho
  · next fields =>
    obtain ⟨u, hu, ho⟩ := except_bind_eq_ok.mp ho
    have hd := follow_eq_ok h hroot hv hu
    obtain ⟨inner, rfl⟩ := (h.localChains.object_iff hv hd).mp (hobject.mpr ⟨fields, rfl⟩)
    exact .inl ⟨inner, (Except.ok.inj ho).symm, hd⟩
  · next hno =>
    refine .inr ⟨(Except.ok.inj ho).symm, fun hobj => ?_⟩
    obtain ⟨fields, rfl⟩ := hobject.mp hobj
    exact hno fields rfl

end Looking

section Showing

variable (h : WellLinked root)
include h

/-- Inside a value that is shown nothing is a link, and no container is inside itself. -/
theorem inner_of_met (spec : Spec) (n : ℕ) :
    (∀ outer v, Met root .text v → v.size < n → (∀ o ∈ outer, v.size < o.size) →
      spec.innerUpTo n outer v = .ok v.inner) ∧
    (∀ outer items, (∀ v ∈ items, Met root .text v) → Value.sizeItems items < n →
      (∀ o ∈ outer, Value.sizeItems items < o.size) →
      spec.innerItems n outer items = .ok (Value.innerItems items)) ∧
    ∀ outer fields, (∀ p ∈ fields, Met root .text p.2) → Value.sizeFields fields < n →
      (∀ o ∈ outer, Value.sizeFields fields < o.size) →
      spec.innerFields n outer fields = .ok (Value.innerFields fields) := by
  induction n with
  | zero => simp
  | succ n ih =>
    obtain ⟨ihValue, ihItems, ihFields⟩ := ih
    refine ⟨?_, ?_, ?_⟩
    · intro outer v hm hsize houter
      -- what is outside is larger than its contents, so no container is seen twice
      have hnew : outer.contains v = false := by
        refine Bool.eq_false_iff.mpr fun hc => ?_
        exact Nat.lt_irrefl _ (houter v (List.contains_iff_mem.mp hc))
      rw [innerUpTo, look_of_met h spec hm rfl]
      cases v with
      | scalar s => rfl
      | array items =>
        rw [Value.size] at hsize houter
        have hitems := ihItems (.array items :: outer) items (fun v hv => hm.item hv) (by omega)
          (List.forall_mem_cons.mpr ⟨by rw [Value.size]; omega, fun o ho => by
            have := houter o ho
            omega⟩)
        simp only [Bind.bind, Except.bind, hnew, hitems, Value.inner, Bool.false_eq_true, if_false]
      | object fields =>
        rw [Value.size] at hsize houter
        have hfields := ihFields (.object fields :: outer) fields (fun p hp => hm.field hp)
          (by omega) (List.forall_mem_cons.mpr ⟨by rw [Value.size]; omega, fun o ho => by
            have := houter o ho
            omega⟩)
        simp only [Bind.bind, Except.bind, hnew, hfields, Value.inner, Bool.false_eq_true, if_false]
    · intro outer items hm hsize houter
      cases items with
      | nil => rfl
      | cons v rest =>
        obtain ⟨hv, hrest⟩ := List.forall_mem_cons.mp hm
        rw [Value.sizeItems] at hsize houter
        have hfirst := ihValue outer v hv (by omega) fun o ho => by
          have := houter o ho
          omega
        have hothers := ihItems outer rest hrest (by omega) fun o ho => by
          have := houter o ho
          omega
        simp only [innerItems, Bind.bind, Except.bind, hfirst, hothers, Value.innerItems]
    · intro outer fields hm hsize houter
      cases fields with
      | nil => rfl
      | cons p rest =>
        obtain ⟨k, v⟩ := p
        obtain ⟨hv, hrest⟩ := List.forall_mem_cons.mp hm
        rw [Value.sizeFields] at hsize houter
        have hfirst := ihValue outer v hv (by omega) fun o ho => by
          have := houter o ho
          omega
        have hothers := ihFields outer rest hrest (by omega) fun o ho => by
          have := houter o ho
          omega
        simp only [innerFields, Bind.bind, Except.bind, hfirst, hothers, Value.innerFields]

theorem display_of_met (spec : Spec) (hm : Met root .text v) : spec.display v = .ok v.display := by
  unfold display
  split
  · rfl
  · rw [look_of_met h spec hm rfl]
    have hroot : 0 < spec.root.size := by cases spec.root <;> exact Nat.succ_pos _
    have hsize : v.size < spec.root.size * (spec.root.size + 2) + v.size :=
      Nat.lt_add_of_pos_left (Nat.mul_pos hroot (Nat.succ_pos _))
    cases v with
    | scalar s => rfl
    | array items => exact (inner_of_met h spec _).1 [] _ hm hsize (by simp)
    | object fields => exact (inner_of_met h spec _).1 [] _ hm hsize (by simp)

theorem firstType?_of_met (spec : Spec) {types : List Value}
    (hm : ∀ v ∈ types.find? fun t => !isNullWord t, Met root .text v) :
    spec.firstType? types = .ok (types.find? fun t => !isNullWord t) := by
  induction types with
  | nil => rfl
  | cons v rest ih =>
    by_cases hnull : isNullWord v = true
    · have hv : v = .text "null" := by
        unfold isNullWord at hnull
        split at hnull
        · rw [beq_iff_eq.mp hnull]
          rfl
        · cases hnull
      rw [List.find?_cons_of_neg (by simp [hnull])] at hm ⊢
      rw [firstType?, look_eq spec (by rw [hv]; rfl), hv]
      exact ih hm
    · rw [List.find?_cons_of_pos (by simp [hnull])] at hm ⊢
      rw [firstType?, look_of_met h spec (hm v rfl) rfl]
      simp only [Bind.bind, Except.bind]
      split
      · exact absurd rfl hnull
      · rfl

/-- The type of a schema is shown, and so it is the same word in both ways. -/
theorem typeWord?_of_met (spec : Spec) (hm : ∀ v ∈ shownType fields, Met root .text v) :
    spec.typeWord? fields = ({ root } : Spec).typeWord? fields := by
  have hdisplay : ∀ v ∈ shownType fields,
      spec.display v = ({ root } : Spec).display v := fun v hv => by
    rw [display_of_met h spec (hm v hv), display_of_met h { root } (hm v hv)]
  unfold typeWord?
  unfold shownType at hm hdisplay
  split
  · rfl
  · rfl
  · next v hnull hv =>
    rw [hv] at hm hdisplay
    cases v with
    | scalar s =>
      rw [look_eq spec rfl, look_eq { root } rfl]
      simp only [Bind.bind, Except.bind, hdisplay _ rfl]
    | object f =>
      have hlink := h.link?_eq_none (hm _ rfl) rfl
      rw [look_eq spec hlink, look_eq { root } hlink]
      simp only [Bind.bind, Except.bind, hdisplay _ rfl]
    | array types =>
      rw [look_eq spec rfl, look_eq { root } rfl]
      simp only [Bind.bind, Except.bind, firstType?_of_met h _ hm]
      split
      · rfl
      · rfl
      · next t _ ht => rw [hdisplay t ht]

end Showing

section Sections

variable (h : WellLinked root)
include h

/-- What a section is read as. -/
def sectionAt (fields : Fields) (name : String) : Value :=
  match Fields.get? fields name with
  | none => .object []
  | some v => if v.isEmpty then .object [] else v

def listAt (fields : Fields) (name : String) : Value :=
  match Fields.get? fields name with
  | none => .array []
  | some v => if v.isEmpty then .array [] else v

theorem section?_of_met (spec : Spec) {name : String}
    (hm : ∀ v, Fields.get? fields name = some v → Met root .plain v) :
    spec.section? fields name = .ok (sectionAt fields name) := by
  unfold section? sectionAt
  cases hv : Fields.get? fields name with
  | none => rfl
  | some v =>
    simp only [look_of_met h spec (hm v hv) rfl]
    rfl

theorem listField_of_met (spec : Spec) {name : String}
    (hm : ∀ v, Fields.get? fields name = some v → Met root .plain v) :
    spec.listField fields name = .ok (listAt fields name) := by
  unfold listField listAt
  cases hv : Fields.get? fields name with
  | none => rfl
  | some v =>
    simp only [look_of_met h spec (hm v hv) rfl]
    rfl

omit h in
theorem fieldsOf_sectionAt {name : String} {inner : Fields}
    (hinner : fieldsOf (sectionAt fields name) = .ok inner) : inner = fieldsUnder fields name := by
  unfold sectionAt at hinner
  unfold fieldsUnder
  split at hinner
  · next hget => rw [hget]; exact (Except.ok.inj hinner).symm
  · next v hget =>
    rw [hget]
    split at hinner
    · next hempty =>
      rw [← Except.ok.inj hinner]
      cases v with
      | scalar s => rfl
      | array items => rfl
      | object f => exact (List.isEmpty_iff.mp hempty).symm
    · cases v with
      | scalar s => cases hinner
      | array items => cases hinner
      | object f => exact (Except.ok.inj hinner).symm

omit h in
/-- The members of a list field are the items of an array, or scalars. -/
theorem mem_membersOf_listAt {name : String} {members : List Value}
    (hmembers : membersOf (listAt fields name) = .ok members) (hv : v ∈ members) :
    v ∈ itemsUnder fields name ∨ ∃ s, v = .scalar s := by
  unfold listAt at hmembers
  unfold itemsUnder
  split at hmembers
  · rw [← Except.ok.inj hmembers] at hv
    cases hv
  · next u hget =>
    rw [hget]
    split at hmembers
    · rw [← Except.ok.inj hmembers] at hv
      cases hv
    · cases u with
      | array items => exact .inl (Except.ok.inj hmembers ▸ hv)
      | object f =>
        rw [← Except.ok.inj hmembers] at hv
        obtain ⟨p, -, rfl⟩ := List.mem_map.mp hv
        exact .inr ⟨p.1, rfl⟩
      | scalar s =>
        cases s with
        | text s =>
          rw [← Except.ok.inj hmembers] at hv
          obtain ⟨c, -, rfl⟩ := List.mem_map.mp hv
          exact .inr ⟨.text (String.singleton c), rfl⟩
        | _ => cases hmembers

end Sections

end Spec

end ApiStubs
