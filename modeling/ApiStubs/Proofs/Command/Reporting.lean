import ApiStubs.Proofs.Files.Saving

/-! # How a run ends that cannot read its specification

A run that has loaded a specification ends with the exit code one if reading it fails in a way that
is reported. Every other failure of reading ends the run without an exit code.
-/

namespace ApiStubs

namespace Job

variable {α β : Type}

theorem run_map (f : α → β) (x : Job α) (desk : Desk) :
    (f <$> x).run.run desk =
      match x.run.run desk with
      | (.ok a, middle) => (.ok (f a), middle)
      | (.error e, middle) => (.error e, middle) := by
  rw [map_eq_pure_bind, run_bind]
  rfl

theorem run_tryCatch (x : Job α) (handle : Failure → Job α) (desk : Desk) :
    (tryCatch x handle).run.run desk =
      match x.run.run desk with
      | (.ok a, middle) => (.ok a, middle)
      | (.error f, middle) => (handle f).run.run middle := by
  show (ExceptT.tryCatch x handle).run.run desk = _
  rw [ExceptT.tryCatch, ExceptT.run_mk, StateT.run_bind]
  have hrun : StateT.run x desk = x.run.run desk := rfl
  rw [hrun]
  rcases x.run.run desk with ⟨_ | _, _⟩ <;> rfl

theorem run_say (line : String) (desk : Desk) :
    (say line).run.run desk = (.ok (), { desk with printed := desk.printed ++ [line] }) := rfl

theorem run_note (notices : List Notice) (desk : Desk) :
    (note notices).run.run desk = (.ok (), { desk with notices := desk.notices ++ notices }) := rfl

theorem run_traced (x : Traced Failure α) (desk : Desk) :
    (traced x).run.run desk =
      (x.outcome, { desk with notices := desk.notices ++ x.notices }) := by
  rw [traced, run_bind, run_note]
  cases x.outcome <;> rfl

end Job

namespace Command

variable {o : Options} {s : Settings} {spec : Spec} {desk desk' : Desk} {e : ReadFailure}

/-- Loads the specification that settings name. -/
def loadFor (s : Settings) : Job Spec := do
  Job.say ("📥 Загрузка спецификации " ++ s.specSource.display ++ "...")
  Source.load (← textOf s .specSource)

/-- The settings of a run, and the specification that it loads. -/
def start (o : Options) : Job (Settings × Spec) := do
  let s ← settingsFor o
  if s.specSource.isEmpty then throw .sourceMissing
  let spec ← loadFor s
  pure (s, spec)

/-- A run with options reads a specification, for a language that there is. -/
def Reads (o : Options) (desk : Desk) (spec : Spec) : Prop :=
  o.initConfig = false ∧ ∃ s desk' label language,
    (start o).run.run desk = (.ok (s, spec), desk') ∧ textOf s .target = .ok label ∧
      languageOf label = .ok language

/-- The exit code for a failure of reading, if it is reported. -/
def exitCode : ReadFailure → Except Failure Nat
  | .unreadable .. => .ok 1
  | e => .error (.reading e)

theorem run_reportFailure (e : ReadFailure) (desk : Desk) :
    ((reportFailure (.reading e)).run.run desk).1 = exitCode e := by
  cases e <;> rfl

theorem outcome_libraryFor {label : String} {language : Language}
    (htarget : textOf s .target = .ok label) (hlanguage : languageOf label = .ok language)
    (he : spec.document.outcome = .error e) :
    (libraryFor s spec).outcome = .error (.reading e) := by
  have hdocument : (Origin.document? (.spec spec)).outcome = .error (.reading e) := by
    show (spec.document.mapFailure Failure.reading >>= fun d => pure (some d)).outcome = _
    rw [Traced.outcome_bind, Traced.mapFailure, he]
    rfl
  rw [libraryFor, htarget]
  simp only [generateLibrary, Traced.outcome_bind, Traced.outcome_lift, hlanguage, hdocument]
  rfl

/-- The failure ends the run once the specification is loaded. -/
theorem exists_run_of_error {label : String} {language : Language} (dryRun : Bool)
    (hsource : s.specSource.isEmpty = false)
    (hload : (loadFor s).run.run desk = (.ok spec, desk'))
    (htarget : textOf s .target = .ok label) (hlanguage : languageOf label = .ok language)
    (he : spec.document.outcome = .error e) :
    ∃ d, (run s dryRun).run.run desk = (.error (.reading e), d) := by
  obtain ⟨_, said, hsaid, hload⟩ := Job.run_bind_eq_ok.mp hload
  obtain ⟨text, named, htext, hload⟩ := Job.run_bind_eq_ok.mp hload
  rw [run]
  simp only [hsource, Bool.false_eq_true, if_false, Job.run_bind, hsaid, htext, hload, Job.run_say,
    Job.run_traced, outcome_libraryFor htarget hlanguage he]
  exact ⟨_, rfl⟩

theorem execute_of_error (hreads : Reads o desk spec) (he : spec.document.outcome = .error e) :
    ((execute o).run.run desk).1 = exitCode e := by
  obtain ⟨hinit, s, desk', label, language, hstart, htarget, hlanguage⟩ := hreads
  obtain ⟨s', middle, hs, hstart⟩ := Job.run_bind_eq_ok.mp hstart
  split at hstart
  · cases hstart
  · next hsource =>
    obtain ⟨spec', loaded, hload, hpure⟩ := Job.run_bind_eq_ok.mp hstart
    cases hpure
    have hempty : s.specSource.isEmpty = false := Bool.eq_false_iff.mpr hsource
    obtain ⟨failed, hrun⟩ := exists_run_of_error o.dryRun hempty hload htarget hlanguage he
    rw [execute, hinit]
    simp only [Bool.false_eq_true, if_false, Job.run_bind, hs, hempty, Job.run_tryCatch,
      Job.run_map, hrun]
    exact run_reportFailure e failed

end Command

end ApiStubs
