import ApiStubs.Proofs.Command.Reporting
import ApiStubs.Proofs.Settings.Written
import ApiStubs.Settings.File

/-! # Saving and loading settings

Settings that have a written form stand in their file once they are saved, and loading them reads
that text again, since it has no line breaks that reading would change.
-/

namespace ApiStubs

open Text Toml

variable {s : Settings} {n : SettingName} {text path : String} {cs : List Char} {desk : Desk}
  {tree tree' : FileTree} {content content' : List UInt8}

/-- A text without carriage returns keeps its breaks. -/
theorem Text.plainBreaks_eq_self (h : '\r' ∉ cs) : plainBreaks cs = cs := by
  induction cs with
  | nil => rfl
  | cons c cs ih =>
    obtain ⟨hc, hcs⟩ := List.ne_and_not_mem_of_not_mem_cons h
    rw [plainBreaks, ih hcs]
    · rintro rest rfl; exact absurd rfl hc
    · rintro rfl; exact absurd rfl hc

namespace Settings

theorem exists_of_mem_mapM {α β : Type} {f : α → Option β} {xs : List α} {ys : List β} {y : β}
    (h : xs.mapM f = some ys) (hy : y ∈ ys) : ∃ x ∈ xs, f x = some y := by
  induction xs generalizing ys with
  | nil => cases h; cases hy
  | cons x xs ih =>
    rw [List.mapM_cons] at h
    obtain ⟨z, hz, h⟩ := Option.bind_eq_some_iff.mp h
    obtain ⟨zs, hzs, ⟨⟩⟩ := Option.bind_eq_some_iff.mp h
    rcases List.mem_cons.mp hy with rfl | hy
    · exact ⟨x, List.mem_cons_self, hz⟩
    · obtain ⟨w, hw, hf⟩ := ih hzs hy
      exact ⟨w, .tail _ hw, hf⟩

theorem return_not_mem_written (h : s.HasTexts) (htext : s.written? = some text) :
    '\r' ∉ text.toList := by
  rw [written?_eq h, Option.map_eq_some_iff] at htext
  obtain ⟨lines, hlines, rfl⟩ := htext
  rw [String.toList_ofList, List.mem_flatten]
  rintro ⟨line, hline, hmem⟩
  obtain ⟨e, -, he⟩ := exists_of_mem_mapM hlines hline
  obtain ⟨body, hbody, rfl⟩ := Option.map_eq_some_iff.mp he
  have hlabel : '\r' ∉ e.1.label.toList := by cases e.1 <;> decide
  have hequals : '\r' ∉ " = \"".toList := by decide
  simp only [lineOf, List.mem_append] at hmem
  rcases hmem with hmem | hmem | hmem | hmem
  · exact hlabel hmem
  · exact hequals hmem
  · exact break_not_mem_body hbody (by decide) hmem
  · exact absurd hmem (by decide)

/-- Settings with a written form stand in their file once they are saved. -/
theorem run_save_of_some (hw : desk.files.write path [] = .ok tree)
    (htext : s.written? = some text) :
    ∃ tree', (s.save path).run.run desk = (.ok (), { desk with files := tree' }) ∧
      tree'.read path = .ok (encode text) := by
  have hempty : desk.files.write path (encode "") = .ok tree := hw
  obtain ⟨-, place, hlocate, -, -⟩ := FileTree.write_eq_ok hw
  obtain ⟨tree', hagain⟩ := FileTree.exists_write hw (encode text)
  have hplace := (FileTree.keeps_write hw).locate hlocate
  refine ⟨tree', ?_, ?_⟩
  · rw [save, Job.run_bind, Job.writeText, Job.run_change, hempty]
    simp only [htext, Job.writeText, Job.run_change, hagain]
  · obtain ⟨hlast, hfile⟩ := FileTree.at?_write hagain hplace
    exact FileTree.read_of_at? hlast hfile

/-- Other ones leave an empty file. -/
theorem run_save_of_none (hw : desk.files.write path [] = .ok tree) (htext : s.written? = none) :
    (s.save path).run.run desk = (.error .settingsUnwritable, { desk with files := tree }) ∧
      tree.read path = .ok (encode "") := by
  have hempty : desk.files.write path (encode "") = .ok tree := hw
  obtain ⟨-, place, hlocate, -, -⟩ := FileTree.write_eq_ok hw
  refine ⟨?_, ?_⟩
  · rw [save, Job.run_bind, Job.writeText, Job.run_change, hempty]
    simp only [htext]
    rfl
  · obtain ⟨hlast, hfile⟩ := FileTree.at?_write hempty hlocate
    exact FileTree.read_of_at? hlast hfile

/-- What a file says is loaded, with a notice where it says nothing sound. -/
theorem run_load? (hread : desk.files.read path = .ok (encode text)) (hplain : '\r' ∉ text.toList) :
    ∃ notices, (load? path none).run.run desk = (.ok (read? text), { desk with notices }) := by
  have hexists : desk.files.pathExists path = true := by
    rw [FileTree.read] at hread
    rw [FileTree.pathExists]
    cases hfind : desk.files.find path with
    | ok e => rfl
    | error f =>
      rw [hfind] at hread
      cases hread
  have htext : (Job.readText path).run.run desk = (.ok text, desk) := by
    rw [Job.readText, Job.run_bind, Job.run_files]
    dsimp only
    rw [Job.run_bind, hread]
    have hfiled : (Job.filed (.ok (encode text)) : Job (List UInt8)).run.run desk =
        (.ok (encode text), desk) := rfl
    rw [hfiled]
    dsimp only
    rw [decode?_encode]
    dsimp only
    rw [plainBreaks_eq_self hplain, String.ofList_toList]
    rfl
  rw [load?, Job.run_bind, Job.run_files]
  simp only [pathIn, hexists, if_true]
  rw [Job.run_bind, htext]
  dsimp only
  cases hs : read? text with
  | none => exact ⟨_, rfl⟩
  | some s => exact ⟨_, rfl⟩

/-- Saves settings and loads what there is then. -/
def saveAndLoad (s : Settings) (path : String) : Job (Option Settings) := do
  s.save path
  load? path none

/-- What is loaded is what the written text says. -/
theorem run_saveAndLoad (h : s.HasTexts) (hw : desk.files.write path [] = .ok tree) :
    ((saveAndLoad s path).run.run desk).1 =
      match s.written? with
      | some text => .ok (read? text)
      | none => .error .settingsUnwritable := by
  rw [saveAndLoad, Job.run_bind]
  cases htext : s.written? with
  | none => rw [(run_save_of_none hw htext).1]
  | some text =>
    obtain ⟨tree', hsave, hread⟩ := run_save_of_some hw htext
    have hfound : ({ desk with files := tree' } : Desk).files.read path = .ok (encode text) := hread
    obtain ⟨notices, hload⟩ := run_load? hfound (return_not_mem_written h htext)
    rw [hsave]
    dsimp only
    rw [hload]

end Settings

end ApiStubs
