import ApiStubs.Notice

/-!
# Traced computations

A computation that ends in a result or a failure and has written notices in either case. Its outcome
does not depend on the notices.
-/

namespace ApiStubs

theorem except_bind_eq_ok {ε α β : Type} {x : Except ε α} {f : α → Except ε β} {b : β} :
    x >>= f = .ok b ↔ ∃ a, x = .ok a ∧ f a = .ok b := by
  cases x <;> simp [Bind.bind, Except.bind]

theorem except_bind_eq_error {ε α β : Type} {x : Except ε α} {f : α → Except ε β} {e : ε} :
    x >>= f = .error e ↔ x = .error e ∨ ∃ a, x = .ok a ∧ f a = .error e := by
  cases x <;> simp [Bind.bind, Except.bind]

theorem except_isOk_iff {ε α : Type} {x : Except ε α} : x.isOk = true ↔ ∃ a, x = .ok a := by
  cases x <;> simp [Except.isOk, Except.toBool]

structure Traced (ε α : Type) where
  notices : List Notice := []
  outcome : Except ε α

namespace Traced

variable {ε ε' α β : Type}

/-- Runs the second computation on the result of the first one, if there is one. -/
def bind (x : Traced ε α) (f : α → Traced ε β) : Traced ε β :=
  match x.outcome with
  | .ok a => ⟨x.notices ++ (f a).notices, (f a).outcome⟩
  | .error e => ⟨x.notices, .error e⟩

instance : Monad (Traced ε) where
  pure a := { outcome := .ok a }
  bind := bind

instance : MonadExcept ε (Traced ε) where
  throw e := { outcome := .error e }
  tryCatch x handle :=
    match x.outcome with
    | .ok _ => x
    | .error e => ⟨x.notices ++ (handle e).notices, (handle e).outcome⟩

instance : MonadLift (Except ε) (Traced ε) where
  monadLift x := { outcome := x }

/-- Writes one notice. -/
def note (n : Notice) : Traced ε Unit :=
  { notices := [n], outcome := .ok () }

/-- A computation whose failures are seen as failures of another kind. -/
def mapFailure (f : ε → ε') (x : Traced ε α) : Traced ε' α :=
  ⟨x.notices, x.outcome.mapError f⟩

@[simp] theorem outcome_pure (a : α) : (pure a : Traced ε α).outcome = .ok a := rfl

@[simp] theorem notices_pure (a : α) : (pure a : Traced ε α).notices = [] := rfl

@[simp] theorem outcome_lift (x : Except ε α) : (monadLift x : Traced ε α).outcome = x := rfl

@[simp] theorem outcome_bind (x : Traced ε α) (f : α → Traced ε β) :
    (x >>= f).outcome = x.outcome >>= fun a => (f a).outcome := by
  cases h : x.outcome with
  | ok a => simp [Bind.bind, bind, h, Except.bind]
  | error e => simp [Bind.bind, bind, h, Except.bind]

theorem ok_bind (notices : List Notice) (a : α) (f : α → Traced ε β) :
    (⟨notices, .ok a⟩ : Traced ε α) >>= f = ⟨notices ++ (f a).notices, (f a).outcome⟩ := rfl

theorem notices_lift_bind (x : Except ε α) (f : α → Traced ε β) :
    ((monadLift x : Traced ε α) >>= f).notices =
      match x with
      | .ok a => (f a).notices
      | .error _ => [] := by
  cases x <;> rfl

/-- What writes nothing after a computation leaves its notices as they are. -/
theorem notices_bind_of_silent (x : Traced ε α) {f : α → Traced ε β}
    (hf : ∀ a, (f a).notices = []) : (x >>= f).notices = x.notices := by
  cases h : x.outcome with
  | ok a => simp [Bind.bind, bind, h, hf a]
  | error e => simp [Bind.bind, bind, h]

theorem outcome_bind_eq_ok {x : Traced ε α} {f : α → Traced ε β} {b : β} :
    (x >>= f).outcome = .ok b ↔ ∃ a, x.outcome = .ok a ∧ (f a).outcome = .ok b := by
  rw [outcome_bind, except_bind_eq_ok]

theorem outcome_bind_eq_error {x : Traced ε α} {f : α → Traced ε β} {e : ε} :
    (x >>= f).outcome = .error e ↔
      x.outcome = .error e ∨ ∃ a, x.outcome = .ok a ∧ (f a).outcome = .error e := by
  rw [outcome_bind, except_bind_eq_error]

end Traced

end ApiStubs
