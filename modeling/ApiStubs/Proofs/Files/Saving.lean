import ApiStubs.Command
import ApiStubs.Proofs.Files.Tree

/-! # Saving files in a directory

Saving writes one file after the other. Every file that leads to a place of its own is there in the
end with its content, since a write moves no directory and touches no other place.
-/

namespace ApiStubs

namespace Job

variable {α β : Type} {desk desk' : Desk}

theorem run_bind (x : Job α) (f : α → Job β) (desk : Desk) :
    (x >>= f).run.run desk =
      match x.run.run desk with
      | (.ok a, middle) => (f a).run.run middle
      | (.error e, middle) => (.error e, middle) := by
  rw [ExceptT.run_bind, StateT.run_bind]
  rcases x.run.run desk with ⟨_ | _, _⟩ <;> rfl

theorem run_bind_eq_ok {x : Job α} {f : α → Job β} {b : β} :
    (x >>= f).run.run desk = (.ok b, desk') ↔
      ∃ a middle, x.run.run desk = (.ok a, middle) ∧ (f a).run.run middle = (.ok b, desk') := by
  rw [run_bind]
  rcases x.run.run desk with ⟨e | a, middle⟩
  · constructor
    · intro h; cases h
    · rintro ⟨_, _, h, -⟩; cases h
  · constructor
    · intro h; exact ⟨a, middle, rfl, h⟩
    · rintro ⟨_, _, h, hf⟩; cases h; exact hf

theorem run_files (desk : Desk) : files.run.run desk = (.ok desk.files, desk) := rfl

theorem run_change (f : FileTree → Except FileFailure FileTree) (desk : Desk) :
    (change f).run.run desk =
      match f desk.files with
      | .ok t => (.ok (), { desk with files := t })
      | .error e => (.error (.files e), desk) := by
  simp only [change, run_bind, run_files]
  cases f desk.files <;> rfl

end Job

variable {directory : String} {f : SourceFile} {files : List SourceFile} {t t' : FileTree}
  {desk desk' : Desk}

namespace Command

/-- Saves one file; the result is its path. -/
def saveFile (directory : String) (f : SourceFile) : Job String := do
  let path := FileTree.join directory f.fileName
  Job.writeText path f.content
  Job.note [.fileSaved path]
  pure path

theorem saveFiles_eq (files : List SourceFile) (directory : String) :
    saveFiles files directory = (do
      Job.change fun t => t.makeDirectories directory
      files.mapM (saveFile directory)) := rfl

theorem write_of_saveFile {path : String}
    (h : (saveFile directory f).run.run desk = (.ok path, desk')) :
    desk.files.write (FileTree.join directory f.fileName) (Text.encode f.content) =
      .ok desk'.files := by
  obtain ⟨_, middle, hwrite, hrest⟩ := Job.run_bind_eq_ok.mp h
  rw [Job.writeText, Job.run_change] at hwrite
  split at hwrite
  · next t ht =>
    cases hwrite
    cases hrest
    exact ht
  · cases hwrite

/-- Files that are written to a directory one after the other: the tree before and after. -/
inductive Saves (directory : String) : List SourceFile → FileTree → FileTree → Prop where
  | none {t : FileTree} : Saves directory [] t t
  | next {f : SourceFile} {files : List SourceFile} {t t' t'' : FileTree} :
      t.write (FileTree.join directory f.fileName) (Text.encode f.content) = .ok t' →
      Saves directory files t' t'' → Saves directory (f :: files) t t''

theorem files_of_saveFile_error {e : Failure}
    (h : (saveFile directory f).run.run desk = (.error e, desk')) : desk'.files = desk.files := by
  rw [saveFile, Job.run_bind, Job.writeText, Job.run_change] at h
  cases hw : desk.files.write (FileTree.join directory f.fileName) (Text.encode f.content) with
  | ok t =>
    rw [hw] at h
    cases h
  | error failure =>
    rw [hw] at h
    cases h
    rfl

/-- Whatever becomes of a run, some of the files from the first one on are written, and all of them
if it succeeds. -/
theorem exists_saves_of_mapM {result : Except Failure (List String)}
    (h : (files.mapM (saveFile directory)).run.run desk = (result, desk')) :
    ∃ written, written <+: files ∧ (result.isOk = true → written = files) ∧
      Saves directory written desk.files desk'.files := by
  induction files generalizing desk result with
  | nil => cases h; exact ⟨[], List.nil_prefix, fun _ => rfl, .none⟩
  | cons f files ih =>
    rw [List.mapM_cons, Job.run_bind] at h
    rcases hf : (saveFile directory f).run.run desk with ⟨e | path, middle⟩
    · rw [hf] at h
      cases h
      exact ⟨[], List.nil_prefix, nofun, files_of_saveFile_error hf ▸ .none⟩
    · simp only [hf, Job.run_bind] at h
      rcases hrest : (files.mapM (saveFile directory)).run.run middle with ⟨e | paths, last⟩ <;>
      · rw [hrest] at h
        cases h
        obtain ⟨written, hprefix, hall, hs⟩ := ih hrest
        exact ⟨f :: written, List.cons_prefix_cons.mpr ⟨rfl, hprefix⟩,
          fun hok => congrArg (f :: ·) (hall hok), .next (write_of_saveFile hf) hs⟩

theorem exists_saves_of_saveFiles {result : Except Failure (List String)}
    (h : (saveFiles files directory).run.run desk = (result, desk')) :
    (result.isOk = false ∧ desk'.files = desk.files) ∨
      ∃ made written, desk.files.makeDirectories directory = .ok made ∧ written <+: files ∧
        (result.isOk = true → written = files) ∧ Saves directory written made desk'.files := by
  rw [saveFiles_eq, Job.run_bind, Job.run_change] at h
  cases hmake : desk.files.makeDirectories directory with
  | error e =>
    rw [hmake] at h
    cases h
    exact .inl ⟨rfl, rfl⟩
  | ok made =>
    rw [hmake] at h
    obtain ⟨written, hprefix, hall, hs⟩ := exists_saves_of_mapM h
    exact .inr ⟨made, written, rfl, hprefix, hall, hs⟩

theorem saves_of_saveFiles {paths : List String}
    (h : (saveFiles files directory).run.run desk = (.ok paths, desk')) :
    ∃ t, desk.files.makeDirectories directory = .ok t ∧ Saves directory files t desk'.files := by
  rcases exists_saves_of_saveFiles h with ⟨hfailed, -⟩ | ⟨made, written, hmake, -, hall, hs⟩
  · cases hfailed
  · exact ⟨made, hmake, hall rfl ▸ hs⟩

section Last

variable {home place : Place}

/-- The last of some files that belongs to a place, seen from a working directory. -/
def lastAt (home : Place) (directory : String) (files : List SourceFile) (place : Place) :
    Option SourceFile :=
  (files.filter fun f => FileTree.placeIn home directory f.fileName = place).getLast?

theorem lastAt_eq_none_iff : lastAt home directory files place = none ↔
    place ∉ files.map fun f => FileTree.placeIn home directory f.fileName := by
  simp [lastAt]

theorem lastAt_cons_self (home : Place) (directory : String) (f : SourceFile)
    (files : List SourceFile) :
    lastAt home directory (f :: files) (FileTree.placeIn home directory f.fileName) =
      some ((lastAt home directory files (FileTree.placeIn home directory f.fileName)).getD f) := by
  rw [lastAt, List.filter_cons_of_pos (by simp), List.getLast?_cons, lastAt]

theorem lastAt_cons_of_ne (h : FileTree.placeIn home directory f.fileName ≠ place) :
    lastAt home directory (f :: files) place = lastAt home directory files place := by
  rw [lastAt, List.filter_cons_of_neg (by simpa using h), lastAt]

theorem lastAt_of_nodup
    (hn : (files.map fun f => FileTree.placeIn home directory f.fileName).Nodup) : ∀ f ∈ files,
    lastAt home directory files (FileTree.placeIn home directory f.fileName) = some f := by
  induction files with
  | nil => simp
  | cons g files ih =>
    obtain ⟨hfresh, hn⟩ := List.nodup_cons.mp hn
    refine List.forall_mem_cons.mpr ⟨?_, fun f hf => ?_⟩
    · rw [lastAt_cons_self, lastAt_eq_none_iff.mpr hfresh, Option.getD_none]
    · have hne : FileTree.placeIn home directory g.fileName ≠
          FileTree.placeIn home directory f.fileName :=
        fun he => hfresh (List.mem_map.mpr ⟨f, hf, he.symm⟩)
      rw [lastAt_cons_of_ne hne, ih hn f hf]

end Last

namespace Saves

open FileTree

theorem keeps (h : Saves directory files t t') : Keeps t t' := by
  induction h with
  | none => exact ⟨rfl, fun _ => id⟩
  | next hw _ ih => exact (keeps_write hw).trans ih

/-- At every place there is what was written to it last, or what was there before. -/
theorem at?_eq_last (h : Saves directory files t t') (place : Place) :
    t'.at? place =
      ((lastAt t.home directory files place).map fun f => Entry.file (Text.encode f.content)).or
        (t.at? place) := by
  induction h with
  | none => rfl
  | @next f files t t₁ t₂ hw _ ih =>
    obtain ⟨-, written, hl, hd, rfl⟩ := write_eq_ok hw
    obtain rfl := locate_join hl
    have hhome : (t.putAt (placeIn t.home directory f.fileName)
        (.file (Text.encode f.content))).home = t.home := rfl
    rw [ih, hhome]
    by_cases hp : placeIn t.home directory f.fileName = place
    · subst hp
      rw [lastAt_cons_self, at?_putAt_self hd]
      cases lastAt t.home directory files (placeIn t.home directory f.fileName) <;> rfl
    · rw [lastAt_cons_of_ne hp, at?_putAt_of_ne (Ne.symm hp)]

/-- Where no file belongs, nothing changes. -/
theorem at?_eq (h : Saves directory files t t') {place : Place}
    (hout : place ∉ files.map fun f => placeIn t.home directory f.fileName) :
    t'.at? place = t.at? place := by
  rw [h.at?_eq_last, lastAt_eq_none_iff.mpr hout]
  rfl

/-- The path of every file leads to its place in the end. -/
theorem locate_eq (h : Saves directory files t t') :
    ∀ f ∈ files, t'.locate (join directory f.fileName) =
      .ok (placeIn t'.home directory f.fileName) := by
  induction h with
  | none => simp
  | @next f files t t₁ t₂ hw hs ih =>
    obtain ⟨-, place, hl, -, -⟩ := write_eq_ok hw
    obtain rfl := locate_join hl
    have hkeeps := (keeps_write hw).trans hs.keeps
    exact List.forall_mem_cons.mpr ⟨hkeeps.home ▸ hkeeps.locate hl, ih⟩

/-- A file whose place no other one has is there in the end with its content. -/
theorem at?_placeIn (h : Saves directory files t t')
    (hn : (files.map fun f => placeIn t.home directory f.fileName).Nodup) :
    ∀ f ∈ files, t'.at? (placeIn t.home directory f.fileName) =
      some (.file (Text.encode f.content)) := by
  intro f hf
  rw [h.at?_eq_last, lastAt_of_nodup hn f hf]
  rfl

end Saves

/-- Once files are saved, every path leads to its place, and the files that have places of their own
are read back as they were written. -/
theorem read_of_saveFiles {paths : List String}
    (h : (saveFiles files directory).run.run desk = (.ok paths, desk')) :
    (∀ f ∈ files, desk'.files.locate (FileTree.join directory f.fileName) =
      .ok (FileTree.placeIn desk'.files.home directory f.fileName)) ∧
    ((files.map fun f => FileTree.placeIn desk'.files.home directory f.fileName).Nodup →
      ∀ f ∈ files, desk'.files.read (FileTree.join directory f.fileName) =
        .ok (Text.encode f.content)) := by
  obtain ⟨t, -, hs⟩ := saves_of_saveFiles h
  refine ⟨hs.locate_eq, fun hn f hf => ?_⟩
  have hat := hs.at?_placeIn (hs.keeps.home ▸ hn) f hf
  exact FileTree.read_of_at? (hs.locate_eq f hf) (hs.keeps.home ▸ hat)

/-- A change by which no file is made, changed or lost but directly inside a directory, under one
of some names. -/
structure ChangedInside (directory : String) (names : List String) (t t' : FileTree) : Prop where
  home : t'.home = t.home
  elsewhere : ∀ place content,
    (∀ name ∈ names, place ≠ FileTree.directoryPlace t.home directory ++ [name]) →
      (t'.at? place = some (.file content) ↔ t.at? place = some (.file content))

theorem changedInside_of_saveFiles {result : Except Failure (List String)}
    (hstep : ∀ f ∈ files, FileTree.IsStep f.fileName)
    (h : (saveFiles files directory).run.run desk = (result, desk')) :
    ChangedInside directory (files.map (·.fileName)) desk.files desk'.files := by
  rcases exists_saves_of_saveFiles h with ⟨-, hsame⟩ | ⟨made, written, hmake, hprefix, -, hs⟩
  · rw [hsame]
    exact ⟨rfl, fun _ _ _ => .rfl⟩
  · have hmade := FileTree.sameFiles_makeDirectories hmake
    refine ⟨hs.keeps.home.trans hmade.home, fun place content hout => ?_⟩
    have hfresh : place ∉ written.map fun f =>
        FileTree.placeIn made.home directory f.fileName := by
      intro hin
      obtain ⟨f, hf, rfl⟩ := List.mem_map.mp hin
      have hf := hprefix.subset hf
      refine hout f.fileName (List.mem_map_of_mem hf) ?_
      rw [FileTree.placeIn_eq_directoryPlace _ (hstep f hf), hmade.home]
    rw [hs.at?_eq hfresh]
    exact hmade.files place content

end Command

end ApiStubs
