import ApiStubs.Proofs.Command.Reporting

/-! # What leaves files alone

Loading settings and a specification, generating a library and reporting at the end read files and
print lines. However they end, they change no file.
-/

namespace ApiStubs

namespace Job

variable {α β : Type}

/-- A computation that changes no file, however it ends. -/
def LeavesFiles (x : Job α) : Prop :=
  ∀ desk, (x.run.run desk).2.files = desk.files

namespace LeavesFiles

theorem pure (a : α) : LeavesFiles (Pure.pure a : Job α) := fun _ => rfl

theorem throw (f : Failure) : LeavesFiles (MonadExcept.throw f : Job α) := fun _ => rfl

theorem get : LeavesFiles (MonadState.get : Job Desk) := fun _ => rfl

theorem say (line : String) : LeavesFiles (Job.say line) := fun _ => rfl

theorem note (notices : List Notice) : LeavesFiles (Job.note notices) := fun _ => rfl

theorem files : LeavesFiles Job.files := fun _ => rfl

theorem traced (x : Traced Failure α) : LeavesFiles (Job.traced x) := fun desk => by
  rw [run_traced]

theorem filed (x : Except FileFailure α) : LeavesFiles (Job.filed x) := fun _ => by
  cases x <;> rfl

theorem bind {x : Job α} {f : α → Job β} (hx : LeavesFiles x) (hf : ∀ a, LeavesFiles (f a)) :
    LeavesFiles (x >>= f) := by
  intro desk
  have hfirst := hx desk
  rw [run_bind]
  rcases h : x.run.run desk with ⟨e | a, middle⟩
  · rwa [h] at hfirst
  · rw [h] at hfirst
    exact (hf a middle).trans hfirst

theorem readText (path : String) : LeavesFiles (Job.readText path) := by
  refine bind files fun t => bind (filed _) fun content => ?_
  split
  · exact pure _
  · exact throw _

end LeavesFiles

end Job

namespace Command

open Job

end Command

end ApiStubs
