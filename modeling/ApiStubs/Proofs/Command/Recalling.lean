import ApiStubs.Proofs.Settings.RoundTrip

/-! # Settings that a later run recalls

A run may write its settings to a file, and a run with no options takes its settings from there.
They are those of a run with the same options and no file if and only if all texts among the options
are kept.
-/

namespace ApiStubs

open Text Toml

variable {o first : Options} {s : Settings} {desk : Desk} {tree : FileTree}
  {arguments : List String} {text : String} {words : List Word} {stray : Bool}

/-- The same invocation with settings to be written. -/
def Invocation.initialising : Invocation → Invocation
  | .accepted o => .accepted { o with initConfig := true }
  | .help => .help
  | .refused => .refused

namespace Options

/-- The same options with settings to be written. -/
def initialising (o : Options) : Options :=
  { o with initConfig := true }

theorem withFlags?_initialising (o : Options) (flags : List Flag) :
    o.initialising.withFlags? flags = (o.withFlags? flags).map initialising := by
  induction flags generalizing o with
  | nil => rfl
  | cons f flags ih =>
    cases f with
    | help => rfl
    | initConfig => exact ih { o with initConfig := true }
    | dryRun => exact ih { o with dryRun := true }
    | verbose => exact ih { o with verbose := true }

theorem withValue?_initialising (o : Options) (n : SettingName) (t : String) :
    o.initialising.withValue? n t = (o.withValue? n t).map initialising := by
  unfold withValue?
  split <;> rfl

/-- The flag that asks for writing changes nothing else about a command line. -/
theorem take_initialising (o : Options) (stray : Bool) (words : List Word) :
    take o.initialising stray words = (take o stray words).initialising := by
  fun_induction take o stray words with
  | case1 | case3 | case11 => rfl
  | case2 o stray hstray => rw [take, if_neg hstray]; rfl
  | case4 _ _ _ _ ih | case5 _ _ _ ih => exact ih
  | case6 _ _ _ _ hflags => simp only [take, hflags]; rfl
  | case7 _ _ _ _ _ _ hflags ho | case9 _ _ _ _ ho =>
    simp_all only [take, withFlags?_initialising, Option.map_none]
    rfl
  | case8 _ _ _ _ _ _ hflags _ ho ih | case10 _ _ _ _ _ ho ih =>
    simp_all only [take, withFlags?_initialising, Option.map_some]
  | case12 _ _ _ _ _ ho | case14 _ _ _ _ _ ho =>
    simp_all only [take, withValue?_initialising, Option.map_none]
    rfl
  | case13 _ _ _ _ _ _ ho ih | case15 _ _ _ _ _ _ ho ih =>
    simp_all only [take, withValue?_initialising, Option.map_some]
  | case16 o stray n words hnone =>
    cases words with
    | nil => rfl
    | cons w words =>
      cases w with
      | value text => exact (hnone text words rfl).elim
      | _ => rfl

theorem read_initialising (arguments : List String) :
      read ("--init-config" :: arguments) = (read arguments).initialising := by
  have hword : Word.ofText? "--init-config" = some (.option (.flag .initConfig) none) := by
    decide
  rw [read, read, Word.ofTexts?, hword]
  cases Word.ofTexts? arguments with
  | none => rfl
  | some words => exact take_initialising {} false words

end Options

namespace Command

open Settings

theorem run_settingsFor_fresh (h : desk.files.pathExists fileName = false) :
    ((settingsFor o).run.run desk).1 = .ok (({} : Settings).override o.given) := by
  have hload : (load? fileName none).run.run desk = (.ok none, desk) := by
    rw [load?, Job.run_bind, Job.run_files]
    simp only [pathIn, h, Bool.false_eq_true, if_false]
    rfl
  rw [settingsFor, Job.run_bind, hload]
  rfl

theorem run_settingsFor_saved (hread : desk.files.read fileName = .ok (encode text))
    (hplain : '\r' ∉ text.toList) :
    ((settingsFor o).run.run desk).1 = .ok (((Settings.read? text).getD {}).override o.given) := by
  obtain ⟨notices, hload⟩ := run_load? hread hplain
  rw [settingsFor, Job.run_bind, hload]
  cases Settings.read? text <;> rfl

/-- The settings of a run with some options that follows another one. -/
def settingsAfter (first next : Options) : Job Settings := do
  let _ ← execute first
  settingsFor next

theorem hasTexts_override (given : SettingName → Option String) :
    (({} : Settings).override given).HasTexts := by
  have husual : ({} : Settings).HasTexts := fun n => by
    cases n with
    | specSource => exact .inr ⟨rfl, rfl⟩
    | _ => exact .inl ⟨_, rfl⟩
  intro n
  rw [override, get_ofValues]
  cases given n with
  | none => exact husual n
  | some t =>
    dsimp only
    split
    · exact husual n
    · exact .inl ⟨t, rfl⟩

/-- What a run with no options finds that follows a run that writes settings. -/
theorem run_settingsAfter (hw : desk.files.write fileName [] = .ok tree) :
    ((settingsAfter o.initialising {}).run.run desk).1 =
      match (({} : Settings).override o.given).written? with
      | some text => .ok ((Settings.read? text).getD {})
      | none => .error .settingsUnwritable := by
  have hexecute : execute o.initialising = initialise o := rfl
  rw [settingsAfter, hexecute, initialise]
  cases htext : (({} : Settings).override o.given).written? with
  | none =>
    simp only [Job.run_bind, (run_save_of_none hw htext).1]
  | some text =>
    obtain ⟨tree', hsave, hread⟩ := run_save_of_some hw htext
    have hplain := return_not_mem_written (hasTexts_override o.given) htext
    simp only [Job.run_bind, hsave, Job.run_say]
    exact run_settingsFor_saved (o := {}) hread hplain

theorem isKept_usual : ∀ e ∈ ({} : Settings).entries, IsKept e.2.toList := by
  decide

/-- In a directory without a file, a run with no options that follows a run with some options that
writes settings has the settings of a run with these options alone. -/
def Recalls (arguments : List String) : Prop :=
  ∀ o, Options.read arguments = .accepted o →
    ∃ first next, Options.read ("--init-config" :: arguments) = .accepted first ∧
      Options.read [] = .accepted next ∧
      ∀ desk tree, desk.files.pathExists fileName = false →
        desk.files.write fileName [] = .ok tree →
          ((settingsAfter first next).run.run desk).1 = ((settingsFor o).run.run desk).1

theorem settingsAfter_iff (o : Options) : (∀ desk tree, desk.files.pathExists fileName = false →
    desk.files.write fileName [] = .ok tree →
      ((settingsAfter o.initialising {}).run.run desk).1 = ((settingsFor o).run.run desk).1) ↔
    ∀ e ∈ (({} : Settings).override o.given).entries, IsKept e.2.toList := by
  have htexts := hasTexts_override o.given
  constructor
  · intro h
    obtain ⟨tree, hw⟩ := exists_write_fileName
    have hsame := h {} tree rfl hw
    rw [run_settingsAfter hw, run_settingsFor_fresh rfl] at hsame
    cases hwritten : (({} : Settings).override o.given).written? with
    | none => rw [hwritten] at hsame; cases hsame
    | some text =>
      rw [hwritten] at hsame
      have hfound := Except.ok.inj hsame
      cases hread : Settings.read? text with
      | none =>
        -- a file that is not read gives the usual settings, which have a form that is read
        rw [hread] at hfound
        exact hfound ▸ isKept_usual
      | some s =>
        rw [hread] at hfound
        exact isKept_of_read? htexts hwritten (hread.trans (congrArg some hfound))
  · intro hkept desk tree hfresh hw
    obtain ⟨text, hwritten, hread⟩ := (readBack_iff htexts).mpr hkept
    rw [run_settingsAfter hw, run_settingsFor_fresh hfresh, hwritten]
    simp only [hread, Option.getD_some]

/-- The texts of settings are given ones or usual ones. -/
theorem isKept_override_iff (given : SettingName → Option String) :
    (∀ e ∈ (({} : Settings).override given).entries, IsKept e.2.toList) ↔
      ∀ n, ∀ t ∈ given n, IsKept t.toList := by
  constructor
  · intro h n t ht
    by_cases hempty : t.isEmpty = true
    · rw [String.isEmpty_iff.mp hempty]
      decide
    · refine h (n, t) (mem_entries_iff.mpr ?_)
      rw [override, get_ofValues, Option.mem_def.mp ht]
      exact if_neg hempty
  · rintro h ⟨n, t⟩ he
    have hget := mem_entries_iff.mp he
    rw [override, get_ofValues] at hget
    have husual : ({} : Settings).get n = .text t → IsKept t.toList := fun hn =>
      isKept_usual (n, t) (mem_entries_iff.mpr hn)
    cases hgiven : given n with
    | none => exact husual (by simpa [hgiven] using hget)
    | some u =>
      rw [hgiven] at hget
      dsimp only at hget
      split at hget
      · exact husual hget
      · cases hget
        exact h n t hgiven

theorem recalls_iff : Recalls arguments ↔ ∀ o, Options.read arguments = .accepted o →
    ∀ n, ∀ t ∈ o.given n, IsKept t.toList := by
  refine forall₂_congr fun o ho => ?_
  have hfirst : Options.read ("--init-config" :: arguments) = .accepted o.initialising := by
    rw [Options.read_initialising, ho]
    rfl
  rw [← isKept_override_iff, ← settingsAfter_iff]
  constructor
  · rintro ⟨first, next, hread, hnothing, hsame⟩
    cases hfirst.symm.trans hread
    cases hnothing
    exact hsame
  · intro hsame
    exact ⟨o.initialising, {}, hfirst, rfl, hsame⟩

/-- Settings come back from their file, and are recalled from it by a later run, if and only if the
texts among them are kept. -/
theorem comesBack_and_recalls_iff (source : Option String)
    (namespaceName clientName outputDirectory target : String) (arguments : List String) :
    (ComesBack (ofTexts source namespaceName clientName outputDirectory target) ↔
      ∀ t ∈ source.toList ++ [namespaceName, clientName, outputDirectory, target],
        IsKept t.toList) ∧
    (Recalls arguments ↔ ∀ o, Options.read arguments = .accepted o →
      ∀ n, ∀ t ∈ o.given n, IsKept t.toList) :=
  ⟨comesBack_ofTexts_iff, recalls_iff⟩

/-- A backslash before an `x` is not written as it should be, a character with a low number becomes
its digits, and a backslash before a `u` is read as an escape behind a character with a number. -/
theorem not_comesBack_xampp :
    (∀ source ∈ ["C:\\xampp\\api.json", "a\x1bb", "\u2028C:\\u0041.json"],
      ¬ ComesBack (ofTexts (some source) "Generated.Client" "ApiClient" "generated" "python")) ∧
    ¬ Recalls ["--spec", "C:\\xampp\\api.json"] := by
  constructor
  · have hlost : ∀ source ∈ ["C:\\xampp\\api.json", "a\x1bb", "\u2028C:\\u0041.json"],
        ¬ IsKept source.toList := by decide +kernel
    intro source hsource hback
    exact hlost source hsource (comesBack_ofTexts_iff.mp hback source List.mem_cons_self)
  · intro hrecalls
    have hread : Options.read ["--spec", "C:\\xampp\\api.json"] =
        .accepted { values := [(.specSource, "C:\\xampp\\api.json")] } := by decide
    have hkept := recalls_iff.mp hrecalls _ hread .specSource _ rfl
    revert hkept
    decide

end Command

end ApiStubs
