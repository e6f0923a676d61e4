import ApiStubs.Proofs.Library.Package
import ApiStubs.Proofs.Naming.MethodName
import ApiStubs.Proofs.Package.FieldRows

/-! # Names that templates use

The modules of a package import names from elsewhere, and the class of a model uses some of them.
Nothing keeps a model or a field from having such a name itself, so what captures these names are
exactly the names in a document with the same words.
-/

namespace ApiStubs

open Naming Text

namespace Naming.Snake

variable {name other : String}

/-- A cleaned name that does not start with the word for a missing start comes from its own words
only. -/
theorem clean_eq_iff_sameSpelling (hself : clean other = other)
    (hstart : "param".toList ∉ (words other.toList).head?) :
    clean name = other ↔ Language.python.SameSpelling name other := by
  have hbegun : begun (words other.toList) = words other.toList := by rw [← words_clean, hself]
  have hname : clean name = other ↔ begun (words name.toList) = words other.toList := by
    rw [← hbegun, ← clean_eq_iff, hself]
  rw [hname]
  constructor
  · intro h
    rw [← h] at hstart
    rcases begun_eq_or (words name.toList) with hn | ⟨ws, hn⟩
    · exact hn.symm.trans h
    · exact absurd (by simp [hn]) hstart
  · intro h
    exact (congrArg begun h).trans hbegun

end Naming.Snake

namespace Python

variable {row name : String}

/-- The names that the class of a model uses. -/
def bodyNames : List String :=
  ["Any", "List", "Optional", "Field", "ConfigDict"]

example : field ⟨"created-at", .array .any⟩ =
    "created_at: Optional[List[Any]] = Field(default=None, alias=\"created-at\")" := by
  decide +kernel

/-- The names that a model takes from outside of the package. -/
def templateNames : List String :=
  ["TYPE_CHECKING", "Any", "List", "Optional", "BaseModel", "ConfigDict", "Field"]

/-- The name that a row of a class declares in front of a type. -/
def readDeclared? (row : String) : Option String := do
  let text ← dropStart? margin.toList row.toList
  let _ ← dropStart? ": ".toList (text.dropWhile Character.isWord)
  pure (String.ofList (text.takeWhile Character.isWord))

/-- The names that a row imports from outside of the package. -/
def readOutside (row : String) : List String :=
  match dropStart? "from ".toList row.toList with
  | none => []
  | some source =>
    match dropStart? " import ".toList (source.dropWhile Character.isWord) with
    | none => []
    | some names => (splitOn ',' names).map fun w => String.ofList (w.dropWhile (· == ' '))

/-- The names of the fields in the file of a model. -/
def declared (namespaceName : String) (f : SourceFile) : List String :=
  (bodyRows namespaceName f.content).filterMap readDeclared?

/-- The names that a file takes from outside of the package. -/
def outside (namespaceName : String) (f : SourceFile) : List String :=
  (bodyRows namespaceName f.content).flatMap readOutside

section Declared

theorem readsFields_readDeclared? : ReadsFields readDeclared? :=
  readsFields_bind _

theorem readDeclared?_field (f : ModelField) :
    readDeclared? (margin ++ field f) = some (identifier f.name) := by
  rw [readDeclared?, String.toList_append, dropStart?_append]
  simp only [Option.bind_eq_bind, Option.bind_some, dropStart?_field, takeWhile_field,
    String.ofList_toList, Option.pure_def]

theorem declared_modelFile (namespaceName : String) (m : Model) :
    declared namespaceName (Library.modelFile .python namespaceName m) =
      m.fields.map fun f => identifier f.name := by
  have hread := readsFields_readDeclared?.filterMap_bodyRows namespaceName m.name m.fields
    m.references
  simp only [readDeclared?_field, List.filterMap_eq_map'] at hread
  exact hread

end Declared

section Outside

theorem readOutside_of_head (h : row.toList.head? ≠ some 'f') : readOutside row = [] := by
  have hno : dropStart? "from ".toList row.toList = none := dropStart?_eq_none_of_head h _
  rw [readOutside, hno]

theorem readOutside_indentRow (row : String) : readOutside (indentRow margin row) = [] :=
  readOutside_of_head fun h => absurd (isBlank_of_head_indentRow h) (by decide)

/-- What an import takes from the package is behind a dot. -/
theorem readOutside_importLine (name : String) : readOutside (importLine name) = [] := by
  have hrow : (importLine name).toList = "from ".toList ++ '.' :: ((unitName name).toList ++
      (" import ".toList ++ (identifier name).toList)) := by
    have hcut : "from .".toList = "from ".toList ++ ['.'] := rfl
    simp only [importLine, String.toList_append, hcut, List.append_assoc, List.cons_append,
      List.nil_append]
  rw [readOutside, hrow, dropStart?_append]
  simp only [List.dropWhile_cons_of_neg (by decide : ¬ Character.isWord '.' = true)]
  rfl

theorem readOutside_classRow (name tail : String) :
    readOutside ("class " ++ identifier name ++ tail) = [] := by
  refine readOutside_of_head ?_
  simp [String.toList_append]

theorem flatMap_readOutside_indented (rows : List String) :
    (rows.map (indentRow margin)).flatMap readOutside = [] :=
  List.flatMap_eq_nil_iff.mpr (List.forall_mem_map.mpr fun row _ => readOutside_indentRow row)

theorem flatMap_readOutside_imports (names : List String) :
    (names.map importLine).flatMap readOutside = [] :=
  List.flatMap_eq_nil_iff.mpr (List.forall_mem_map.mpr fun name _ => readOutside_importLine name)

theorem outside_modelFile (namespaceName : String) (m : Model) :
    outside namespaceName (Library.modelFile .python namespaceName m) = templateNames := by
  have hpreamble : modelPreamble.flatMap readOutside = templateNames := by decide
  have hguard : ∀ imports, (guardRows imports).flatMap readOutside = [] := by
    intro imports
    unfold guardRows
    split
    · rfl
    · rw [List.flatMap_cons, List.flatMap_cons, flatMap_readOutside_indented]
      rfl
  have hblank : readOutside "" = [] := rfl
  rw [outside, Library.bodyRows_modelFile, modelRows, memberRows]
  simp only [List.flatMap_append, List.flatMap_cons, List.flatMap_nil, hpreamble, hguard, hblank,
    readOutside_classRow, flatMap_readOutside_indented, List.append_nil]

theorem outside_clientFile (namespaceName client : String) (methods : List Signature) :
    outside namespaceName (Library.clientFile .python namespaceName client methods) =
      ["Any", "List", "Optional"] := by
  have hpreamble : clientPreamble.flatMap readOutside = ["Any", "List", "Optional"] := by decide
  have himports : ∀ references, (importRows references).flatMap readOutside = [] := by
    intro references
    unfold importRows
    split
    · rfl
    · rw [List.flatMap_cons, flatMap_readOutside_imports]
      rfl
  have hblank : readOutside "" = [] := rfl
  rw [outside, Library.bodyRows_clientFile, clientRows, memberRows]
  simp only [List.flatMap_append, List.flatMap_cons, List.flatMap_nil, hpreamble, himports, hblank,
    readOutside_classRow, flatMap_readOutside_indented, List.append_nil]

end Outside

/-- The names of the templates are cleaned names. -/
theorem identifier_not_mem_iff {names : List String}
    (h : names ⊆ "model_config" :: templateNames) :
    identifier name ∉ names ↔ ∀ r ∈ names, ¬ Language.python.SameSpelling name r := by
  have hself : ∀ r ∈ "model_config" :: templateNames, Snake.clean r = r ∧
      "param".toList ∉ (words r.toList).head? := by decide +kernel
  have hspelling : ∀ r ∈ names, (identifier name = r ↔ Language.python.SameSpelling name r) :=
    fun r hr => Snake.clean_eq_iff_sameSpelling (hself r (h hr)).1 (hself r (h hr)).2
  constructor
  · intro hid r hr hsame
    exact hid ((hspelling r hr).mpr hsame ▸ hr)
  · intro hr hmem
    exact hr _ hmem ((hspelling _ hmem).mp rfl)

end Python

namespace Library

open Python

variable {namespaceName client : String} {d : Document} {m : Model}

/-- A model that takes no name away: none of its fields has a name that the class around it uses,
and its class has no name that a model or the client takes from outside of the package. -/
structure CapturesNothing (namespaceName : String) (files : List SourceFile) (f : SourceFile) :
    Prop where
  fields : ∀ x ∈ declared namespaceName f, x ∉ "model_config" :: bodyNames
  classes : ∀ c ∈ classes namespaceName f, ∀ g ∈ files, g.kind = .model ∨ g.kind = .client →
    c ∉ outside namespaceName g

/-- No model of a package takes a name away that the templates use. -/
def NothingCaptured (namespaceName client : String) (d : Document) : Prop :=
  ∀ f ∈ (generate ⟨.python, namespaceName, client⟩ d).files, f.kind = .model →
    CapturesNothing namespaceName (generate ⟨.python, namespaceName, client⟩ d).files f

theorem mem_generate_python {f : SourceFile} :
    f ∈ (generate ⟨.python, namespaceName, client⟩ d).files ↔
      (∃ m ∈ models .python d, modelFile .python namespaceName m = f) ∨
        f = clientFile .python namespaceName client (methods .python d) ∨
          f = packageFile namespaceName client ((models .python d).map (·.name)) := by
  simp only [generate, Language.supportFiles, List.mem_append, List.mem_map, List.mem_cons,
    List.not_mem_nil, or_false]

/-- Each model takes from outside what the client takes, and more. -/
theorem not_mem_outside_iff (hm : m ∈ models .python d) {c : String} :
    (∀ g ∈ (generate ⟨.python, namespaceName, client⟩ d).files,
      g.kind = .model ∨ g.kind = .client → c ∉ outside namespaceName g) ↔ c ∉ templateNames := by
  have hclient : ["Any", "List", "Optional"] ⊆ templateNames := by decide
  constructor
  · intro h
    have hfile := h _ (mem_generate_python.mpr (.inl ⟨m, hm, rfl⟩)) (.inl rfl)
    rwa [outside_modelFile] at hfile
  · rintro h g hg hkind
    rcases mem_generate_python.mp hg with ⟨m, -, rfl⟩ | rfl | rfl
    · rwa [outside_modelFile]
    · rw [outside_clientFile]
      exact fun hc => h (hclient hc)
    · rcases hkind with hkind | hkind <;> cases hkind

theorem capturesNothing_modelFile_iff (hm : m ∈ models .python d) :
    CapturesNothing namespaceName (generate ⟨.python, namespaceName, client⟩ d).files
        (modelFile .python namespaceName m) ↔
      (∀ f ∈ m.fields, ∀ r ∈ "model_config" :: bodyNames,
        ¬ Language.python.SameSpelling f.name r) ∧
      ∀ r ∈ templateNames, ¬ Language.python.SameSpelling m.name r := by
  have hbody : "model_config" :: bodyNames ⊆ "model_config" :: templateNames := by decide
  have htemplate : templateNames ⊆ "model_config" :: templateNames := List.subset_cons_self _ _
  have hclass : classes namespaceName (modelFile .python namespaceName m) = [identifier m.name] :=
    (modelImports namespaceName m).defined
  rw [← identifier_not_mem_iff htemplate]
  simp only [← identifier_not_mem_iff hbody]
  constructor
  · rintro ⟨hfields, hclasses⟩
    rw [declared_modelFile, List.forall_mem_map] at hfields
    refine ⟨hfields, (not_mem_outside_iff hm).mp (hclasses _ ?_)⟩
    rw [hclass]
    exact List.mem_singleton_self _
  · rintro ⟨hfields, hname⟩
    refine ⟨?_, fun c hc => ?_⟩
    · rw [declared_modelFile, List.forall_mem_map]
      exact hfields
    · rw [hclass, List.mem_singleton] at hc
      exact (not_mem_outside_iff hm).mpr (hc ▸ hname)

/-- What captures the names of the templates are the names with the same words, and no others. -/
theorem nothingCaptured_iff (namespaceName client : String) (d : Document) :
    NothingCaptured namespaceName client d ↔ ∀ m ∈ models .python d,
      (∀ f ∈ m.fields, ∀ r ∈ "model_config" :: bodyNames,
        ¬ Language.python.SameSpelling f.name r) ∧
      ∀ r ∈ templateNames, ¬ Language.python.SameSpelling m.name r := by
  constructor
  · intro h m hm
    exact (capturesNothing_modelFile_iff hm).mp
      (h _ (mem_generate_python.mpr (.inl ⟨m, hm, rfl⟩)) rfl)
  · intro h f hf hkind
    rcases mem_generate_python.mp hf with ⟨m, hm, rfl⟩ | rfl | rfl
    · exact (capturesNothing_modelFile_iff hm).mpr (h m hm)
    · cases hkind
    · cases hkind

/-- A model with a property for which the class has a use of its own. -/
def configuredPage : Document where
  schemas := Table.ofList
    [("Page", { kind := .object, properties := [("model_config", { kind := .string })] })]

/-- A model with a name for which annotations have a use of their own. -/
def listModel : Document where
  schemas := Table.ofList [("List", { kind := .object })]

theorem not_nothingCaptured_ownNames :
    ¬ NothingCaptured "Generated.Client" "ApiClient" configuredPage ∧
      ¬ NothingCaptured "Generated.Client" "ApiClient" listModel := by
  simp only [nothingCaptured_iff]
  constructor
  · intro h
    have hpage := h ⟨"Page", [⟨"model_config", .primitive .string⟩]⟩ (by decide +kernel)
    exact hpage.1 ⟨"model_config", .primitive .string⟩ (List.mem_singleton_self _) "model_config"
      List.mem_cons_self rfl
  · intro h
    have hlist := h ⟨"List", []⟩ (by decide +kernel)
    exact hlist.2 "List" (by decide) rfl

end Library

end ApiStubs
