import ApiStubs.Proofs.Files.Saving
import ApiStubs.Proofs.Library.Closure
import ApiStubs.Proofs.Naming.Identifier

/-! # File names of a library

Models, client and package file are named one by one, and nobody compares the results. The files of
a library have names of their own if and only if no two of these names are respelled to one and none
is that of the package file. Then no file takes the place of another one when they are saved.
-/

namespace ApiStubs.Library

open Naming

variable {plan : Plan} {d : Document} {f : SourceFile}

/-- Files that do not get in each other's way: they have different names, and whenever they are
saved, there is one file for each of them, which is read back as it was written. -/
structure FilesApart (files : List SourceFile) : Prop where
  names : (files.map (·.fileName)).Nodup
  saved : ∀ directory desk desk' paths,
    (Command.saveFiles files directory).run.run desk = (.ok paths, desk') →
      (files.map fun f => desk'.files.locate (FileTree.join directory f.fileName)).Nodup ∧
        ∀ f ∈ files, desk'.files.read (FileTree.join directory f.fileName) =
          .ok (Text.encode f.content)

/-- Whenever the files are saved, no two paths are ways to one place. -/
def PathsApart (files : List SourceFile) : Prop :=
  ∀ directory desk desk' paths,
    (Command.saveFiles files directory).run.run desk = (.ok paths, desk') →
      (files.map fun f => FileTree.placeIn desk'.files.home directory f.fileName).Nodup

/-- The names of the models in a library and of its client. -/
def writtenNames (plan : Plan) (d : Document) : List String :=
  (models plan.language d).map (·.name) ++ [plan.client]

/-- Two names with one file name: they are equal, or neither is an identifier other than its
cleaned form, and they have the same words from the start of an identifier on. -/
def SharesFile (a b : String) : Prop :=
  a = b ∨ (Snake.unitName a = Snake.clean a ∧ Snake.unitName b = Snake.clean b ∧
    Snake.begun (words a.toList) = Snake.begun (words b.toList))

/-- No two files of the library would get one name, nor, where names may have slashes in them, two
paths to one place. -/
def FileNamesFree (plan : Plan) (d : Document) : Prop :=
  match plan.language with
  | .csharp => plan.client ∉ (models plan.language d).map (·.name) ∧
      PathsApart (generate plan d).files
  | .python => "__init__" ∉ writtenNames plan d ∧
      (writtenNames plan d).Pairwise fun a b => ¬ SharesFile a b

theorem extension_of_mem_generate (hf : f ∈ (generate plan d).files) :
    f.extension = plan.language.extension := by
  simp only [generate, List.mem_append, List.mem_cons, List.mem_map] at hf
  rcases hf with ⟨m, -, rfl⟩ | rfl | hs
  · rfl
  · rfl
  · cases hl : plan.language with
    | csharp => simp [hl, Language.supportFiles] at hs
    | python =>
      simp only [hl, Language.supportFiles, List.mem_singleton] at hs
      rw [hs]
      rfl

theorem unitNames_generate (plan : Plan) (d : Document) :
    (generate plan d).files.map (·.name) =
      (writtenNames plan d).map plan.language.naming.unitName ++
        match plan.language with
        | .csharp => []
        | .python => ["__init__"] := by
  have hsupport : (plan.language.supportFiles plan.namespaceName plan.client
      ((models plan.language d).map (·.name))).map (·.name) =
        match plan.language with
        | .csharp => []
        | .python => ["__init__"] := by
    cases plan.language <;> rfl
  simp only [generate, writtenNames, List.map_append, List.map_cons, List.map_map, hsupport,
    List.map_nil, List.append_assoc, List.singleton_append]
  rfl

theorem nodup_fileNames_iff :
    ((generate plan d).files.map (·.fileName)).Nodup ↔
      ((generate plan d).files.map (·.name)).Nodup := by
  have hnames : (generate plan d).files.map (·.fileName) =
      ((generate plan d).files.map (·.name)).map (· ++ plan.language.extension) := by
    rw [List.map_map]
    refine List.map_congr_left fun f hf => ?_
    rw [SourceFile.fileName, extension_of_mem_generate hf]
    rfl
  rw [hnames]
  exact List.nodup_map_iff fun a b h => (String.append_left_inj _).mp h

theorem sharesFile_iff {a b : String} :
    SharesFile a b ↔ Snake.unitName a = Snake.unitName b :=
  Snake.unitName_eq_iff.symm

theorem nodup_unitNames_csharp_iff (hl : plan.language = .csharp) :
    ((generate plan d).files.map (·.name)).Nodup ↔
      plan.client ∉ (models plan.language d).map (·.name) := by
  have hid : (writtenNames plan d).map Language.csharp.naming.unitName = writtenNames plan d :=
    List.map_id _
  rw [unitNames_generate, hl]
  simp only [List.append_nil, hid]
  rw [writtenNames, hl, List.nodup_append_comm, List.singleton_append, List.nodup_cons]
  exact and_iff_left (nodup_models_names .csharp d)

theorem nodup_unitNames_python_iff (hl : plan.language = .python) :
    ((generate plan d).files.map (·.name)).Nodup ↔ "__init__" ∉ writtenNames plan d ∧
      (writtenNames plan d).Pairwise fun a b => ¬ SharesFile a b := by
  rw [unitNames_generate, hl]
  have hcomm : ∀ names : List String,
      (names ++ ["__init__"]).Nodup ↔ (["__init__"] ++ names).Nodup :=
    fun _ => List.nodup_append_comm
  simp only [hcomm, List.singleton_append, List.nodup_cons]
  refine and_congr (not_congr ?_) ?_
  · rw [List.mem_map]
    constructor
    · rintro ⟨name, hname, he⟩; exact Snake.unitName_eq_init_iff.mp he ▸ hname
    · intro h; exact ⟨_, h, Snake.unitName_eq_init_iff.mpr rfl⟩
  · rw [List.Nodup, List.pairwise_map]
    simp only [sharesFile_iff]
    rfl

/-- No extension has a slash in it. -/
theorem slash_mem_fileName_iff (hf : f ∈ (generate plan d).files) :
    '/' ∈ f.fileName.toList ↔ '/' ∈ f.name.toList := by
  have hextension : '/' ∉ plan.language.extension.toList := by
    cases plan.language <;> decide
  rw [SourceFile.fileName, extension_of_mem_generate hf, String.toList_append, List.mem_append,
    or_iff_left hextension]

theorem exists_unitName_or (h : plan.language = .python) (hf : f ∈ (generate plan d).files) :
    (∃ name, f.name = Snake.unitName name) ∨ f.name = "__init__" := by
  have hmem : f.name ∈ (generate plan d).files.map (·.name) := List.mem_map_of_mem hf
  rw [unitNames_generate, h, List.mem_append, List.mem_map] at hmem
  rcases hmem with ⟨name, -, he⟩ | hmem
  · exact .inl ⟨name, he.symm⟩
  · exact .inr (List.mem_singleton.mp hmem)

theorem slash_not_mem_fileName (h : plan.language = .python) (hf : f ∈ (generate plan d).files) :
    '/' ∉ f.fileName.toList := by
  rw [slash_mem_fileName_iff hf]
  rcases exists_unitName_or h hf with ⟨name, he⟩ | he
  · rw [he]
    intro hslash
    exact absurd (Snake.mem_unitName hslash) (by decide)
  · rw [he]
    decide

/-- The extension keeps a file name from being a step that stays or leads up. -/
theorem isStep_fileName (hf : f ∈ (generate plan d).files) (h : '/' ∉ f.fileName.toList) :
    FileTree.IsStep f.fileName := by
  have hlong : 3 ≤ f.fileName.toList.length := by
    rw [SourceFile.fileName, extension_of_mem_generate hf, String.toList_append,
      List.length_append]
    cases plan.language <;> exact Nat.le_add_left 3 _
  refine ⟨h, ?_, ?_, ?_⟩ <;>
  · intro he
    rw [he] at hlong
    exact absurd hlong (by decide)

/-- Names of their own are ways to places of their own if each of them is a single step. -/
theorem pathsApart_of_nodup {files : List SourceFile}
    (hstep : ∀ f ∈ files, FileTree.IsStep f.fileName) (hn : (files.map (·.fileName)).Nodup) :
    PathsApart files := by
  intro directory desk desk' paths _
  refine List.Nodup.map_on (fun f hf g hg he => ?_) (.of_map _ hn)
  exact List.inj_on_of_nodup_map hn hf hg
    ((FileTree.placeIn_inj (hstep f hf) (hstep g hg)).mp he)

theorem filesApart_iff_pathsApart {files : List SourceFile} :
    FilesApart files ↔ (files.map (·.fileName)).Nodup ∧ PathsApart files := by
  have hlocated : ∀ directory desk desk' paths,
      (Command.saveFiles files directory).run.run desk = (.ok paths, desk') →
        ((files.map fun f => desk'.files.locate (FileTree.join directory f.fileName)).Nodup ↔
          (files.map fun f =>
            FileTree.placeIn desk'.files.home directory f.fileName).Nodup) := by
    intro directory desk desk' paths hrun
    rw [List.map_congr_left (Command.read_of_saveFiles hrun).1, ← List.nodup_map_iff
      (f := fun place => (Except.ok place : Except FileFailure Place)) fun a b => Except.ok.inj,
      List.map_map]
    rfl
  constructor
  · intro h
    refine ⟨h.names, fun directory desk desk' paths hrun => ?_⟩
    exact (hlocated directory desk desk' paths hrun).mp (h.saved directory desk desk' paths hrun).1
  · rintro ⟨hnames, hpaths⟩
    refine ⟨hnames, fun directory desk desk' paths hrun => ?_⟩
    have hplaces := hpaths directory desk desk' paths hrun
    exact ⟨(hlocated directory desk desk' paths hrun).mpr hplaces,
      (Command.read_of_saveFiles hrun).2 hplaces⟩

theorem filesApart_iff (plan : Plan) (d : Document) :
    FilesApart (generate plan d).files ↔ FileNamesFree plan d := by
  rw [filesApart_iff_pathsApart, nodup_fileNames_iff, FileNamesFree]
  split
  · next hl => rw [nodup_unitNames_csharp_iff hl]
  · next hl =>
    rw [← nodup_unitNames_python_iff hl]
    refine and_iff_left_of_imp fun hn => pathsApart_of_nodup (fun f hf => ?_)
      (nodup_fileNames_iff.mpr hn)
    exact isStep_fileName hf (slash_not_mem_fileName hl hf)

/-- A schema that is called like the client, and two that differ in one character. -/
def sharedFileNames : Document where
  schemas := Table.ofList
    [("ApiClient", { kind := .object }), ("a-b", { kind := .object }), ("a_b", { kind := .object })]

theorem not_filesApart_sharedFileNames :
    ¬ FilesApart (generate { language := .csharp } sharedFileNames).files ∧
      ¬ FilesApart (generate { language := .python } sharedFileNames).files := by
  constructor
  · intro h; exact absurd h.names (by decide +kernel)
  · intro h; exact absurd h.names (by decide +kernel)

end ApiStubs.Library
