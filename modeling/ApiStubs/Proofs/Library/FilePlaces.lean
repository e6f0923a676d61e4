import ApiStubs.Proofs.Library.FileNames

/-! # Places of the files of a library

A file is named after a model or the client. Python respells a name that is no identifier, so every
file is saved directly inside the output directory. C# takes the name as it is, and a name with a
slash leads elsewhere.
-/

namespace ApiStubs.Library

open Naming

variable {plan : Plan} {d : Document} {f : SourceFile} {files : List SourceFile}

/-- A file whose name is one component of a path, with something in front of its extension. -/
structure IsPathComponent (f : SourceFile) : Prop where
  filled : f.name ≠ ""
  relative : FileTree.isRooted f.fileName = false
  step : FileTree.IsStep f.fileName

/-- Files that stay in the directory in which they are saved. Whatever becomes of a run, it touches
no file but those directly inside that have their names, and once it succeeds, each path leads to
one of them. -/
structure StaysInside (files : List SourceFile) : Prop where
  names : ∀ f ∈ files, IsPathComponent f
  saved : ∀ directory desk desk' result,
    (Command.saveFiles files directory).run.run desk = (result, desk') →
      Command.ChangedInside directory (files.map (·.fileName)) desk.files desk'.files
  located : ∀ directory desk desk' paths,
    (Command.saveFiles files directory).run.run desk = (.ok paths, desk') →
      ∀ f ∈ files, desk'.files.locate (FileTree.join directory f.fileName) =
        .ok (FileTree.directoryPlace desk'.files.home directory ++ [f.fileName])

theorem staysInside_of_names (h : ∀ f ∈ files, IsPathComponent f) : StaysInside files where
  names := h
  saved _ _ _ _ hrun := Command.changedInside_of_saveFiles (fun f hf => (h f hf).step) hrun
  located directory _ desk' _ hrun f hf := by
    rw [(Command.read_of_saveFiles hrun).1 f hf,
      FileTree.placeIn_eq_directoryPlace _ (h f hf).step]

theorem isPathComponent_iff (hf : f ∈ (generate plan d).files) :
    IsPathComponent f ↔ f.name ≠ "" ∧ '/' ∉ f.name.toList := by
  constructor
  · intro h
    exact ⟨h.filled, (slash_mem_fileName_iff hf).not.mp h.step.1⟩
  · rintro ⟨hfilled, hslash⟩
    have hstep := isStep_fileName hf ((slash_mem_fileName_iff hf).not.mpr hslash)
    exact ⟨hfilled, FileTree.isRooted_of_isStep hstep, hstep⟩

theorem names_csharp_iff (hl : plan.language = .csharp) :
    (∀ f ∈ (generate plan d).files, IsPathComponent f) ↔
      ∀ name ∈ writtenNames plan d, name ≠ "" ∧ '/' ∉ name.toList := by
  have hnames : (generate plan d).files.map (·.name) = writtenNames plan d := by
    rw [unitNames_generate, hl]
    exact (List.append_nil _).trans (List.map_id _)
  rw [← hnames, List.forall_mem_map]
  exact forall₂_congr fun f hf => isPathComponent_iff hf

/-- No identifier is empty, and none has a slash in it. -/
theorem names_python (hl : plan.language = .python) :
    ∀ f ∈ (generate plan d).files, IsPathComponent f := by
  intro f hf
  have hslash := (slash_mem_fileName_iff hf).not.mp (slash_not_mem_fileName hl hf)
  refine (isPathComponent_iff hf).mpr ⟨?_, hslash⟩
  rcases exists_unitName_or hl hf with ⟨name, he⟩ | he
  · rw [he]
    exact Snake.unitName_ne_empty name
  · rw [he]
    decide

/-- The files of a library stay in their directory if it is one for Python, or if every model in it
and the client have names that are not empty and have no slash. -/
theorem staysInside_iff (plan : Plan) (d : Document) :
    StaysInside (generate plan d).files ↔
      (plan.language = .csharp → ∀ name ∈ writtenNames plan d, name ≠ "" ∧ '/' ∉ name.toList) := by
  constructor
  · intro h hl
    exact (names_csharp_iff hl).mp h.names
  · intro h
    refine staysInside_of_names ?_
    cases hl : plan.language with
    | csharp => exact (names_csharp_iff hl).mpr (h hl)
    | python => exact names_python hl

/-- A schema whose name leads out of a directory. -/
def outsideSchema : Document where
  schemas := Table.ofList [("../Pet", { kind := .object })]

/-- Its file is written beside the directory. -/
theorem not_staysInside_outsideSchema :
    ¬ StaysInside (generate { language := .csharp } outsideSchema).files ∧
      ((Command.saveFiles (generate { language := .csharp } outsideSchema).files "out").run.run
        {}).2.files.at? ["Pet.cs"] ≠ none := by
  constructor
  · intro h
    have hslash : ∃ f ∈ (generate { language := .csharp } outsideSchema).files,
        '/' ∈ f.fileName.toList := by decide +kernel
    obtain ⟨f, hf, hin⟩ := hslash
    exact (h.names f hf).step.1 hin
  · decide +kernel

end ApiStubs.Library
