import ApiStubs.Proofs.Settings.Kept
import ApiStubs.Proofs.Settings.Saving

/-! # Settings that come back from their file

Settings come back from the file in which they are saved if and only if all their texts are kept.
-/

namespace ApiStubs.Settings

open Text Toml

variable {s : Settings} {source : Option String}
  {namespaceName clientName outputDirectory target : String}

/-- Settings that are texts, apart from the source, which may be absent. -/
def ofTexts (source : Option String) (namespaceName clientName outputDirectory target : String) :
    Settings where
  specSource := source.elim .null .text
  namespaceName := .text namespaceName
  clientName := .text clientName
  outputDirectory := .text outputDirectory
  target := .text target

theorem hasTexts_ofTexts :
    (ofTexts source namespaceName clientName outputDirectory target).HasTexts := by
  intro n
  cases n with
  | specSource =>
    cases source with
    | none => exact .inr ⟨rfl, rfl⟩
    | some t => exact .inl ⟨t, rfl⟩
  | _ => exact .inl ⟨_, rfl⟩

theorem texts_ofTexts :
    (ofTexts source namespaceName clientName outputDirectory target).entries.map Prod.snd =
      source.toList ++ [namespaceName, clientName, outputDirectory, target] := by
  cases source <;> rfl

/-- Wherever they can be saved at all, settings are loaded again as they are. -/
def ComesBack (s : Settings) : Prop :=
  ∀ path desk tree, desk.files.write path [] = .ok tree →
    ((saveAndLoad s path).run.run desk).1 = .ok (some s)

theorem exists_write_fileName :
    ∃ tree, ({} : Desk).files.write fileName [] = .ok tree := ⟨_, rfl⟩

theorem comesBack_iff (h : s.HasTexts) :
    ComesBack s ↔ ∀ e ∈ s.entries, IsKept e.2.toList := by
  rw [← readBack_iff h]
  constructor
  · intro hback
    obtain ⟨tree, hw⟩ := exists_write_fileName
    have hloaded := hback _ _ _ hw
    rw [run_saveAndLoad h hw] at hloaded
    cases htext : s.written? with
    | none => rw [htext] at hloaded; cases hloaded
    | some text =>
      rw [htext] at hloaded
      exact ⟨text, rfl, Except.ok.inj hloaded⟩
  · rintro ⟨text, htext, hread⟩ path desk tree hw
    rw [run_saveAndLoad h hw, htext]
    exact congrArg Except.ok hread

theorem comesBack_ofTexts_iff :
    ComesBack (ofTexts source namespaceName clientName outputDirectory target) ↔
      ∀ t ∈ source.toList ++ [namespaceName, clientName, outputDirectory, target],
        IsKept t.toList := by
  rw [comesBack_iff hasTexts_ofTexts, ← texts_ofTexts, List.forall_mem_map]

end ApiStubs.Settings
