import ApiStubs.Proofs.Library.FileNames
import ApiStubs.Proofs.Library.Package
import ApiStubs.Proofs.Naming.Validity

/-! # Names of modules

The file of a model or of the client is a module, which other files name in their imports. A name
that is spelled as an identifier is the name of the module as it stands, and every keyword is
spelled so. These are the only names whose class is an identifier and whose module is not, and with
them the imports of a package are no statements of the language.
-/

namespace ApiStubs

open Naming Snake

namespace Python

variable {name : String}

/-- An import that is a statement of the language: its two names are identifiers. -/
structure Import.IsValid (i : Import) : Prop where
  unit : IsIdentifier i.unit
  name : IsIdentifier i.name

/-- A name that has an identifier for its class, as every name of ASCII characters should. -/
def HasClass (name : String) : Prop :=
  IsAscii name ∨ IsIdentifier (identifier name)

/-- If a name has a class, an import can name its module too. -/
def IsImportable (name : String) : Prop :=
  HasClass name → (importOf name).IsValid

theorem isIdentifier_of_hasClass (h : HasClass name) : IsIdentifier (identifier name) := by
  rcases h with hascii | hclass
  · exact isIdentifier_clean_of_isSpellable (isSpellable_of_isAscii hascii)
  · exact hclass

theorem hasClass_of_mem_keywords (h : name ∈ keywords) : HasClass name := by
  have hascii : ∀ k ∈ keywords, IsAscii k := by decide
  exact .inl (hascii name h)

/-- Of all names that have a class, it is the keywords that no import can name. -/
theorem isImportable_iff : IsImportable name ↔ name ∉ keywords := by
  constructor
  · intro h hmem
    have hclass := hasClass_of_mem_keywords hmem
    exact (isIdentifier_unitName_iff (isIdentifier_of_hasClass hclass)).mp (h hclass).unit hmem
  · intro hfree hclass
    have hid := isIdentifier_of_hasClass hclass
    exact ⟨(isIdentifier_unitName_iff hid).mpr hfree, hid⟩

end Python

namespace Library

open Python

variable {namespaceName client : String} {d : Document}

/-- Every import in a package of a name that has a class is a statement of the language. -/
def ImportsValid (namespaceName client : String) (d : Document) : Prop :=
  ∀ f ∈ (generate ⟨.python, namespaceName, client⟩ d).files,
    ∀ n ∈ writtenNames ⟨.python, namespaceName, client⟩ d,
      importOf n ∈ imports namespaceName f → IsImportable n

/-- The package file imports all that is written, so each name counts. -/
theorem importsValid_iff : ImportsValid namespaceName client d ↔
    ∀ n ∈ writtenNames ⟨.python, namespaceName, client⟩ d, n ∉ keywords := by
  constructor
  · intro h n hn
    have hfile : packageFile namespaceName client ((models .python d).map (·.name)) ∈
        (generate ⟨.python, namespaceName, client⟩ d).files :=
      List.mem_append_right _ (List.mem_cons_of_mem _ (List.mem_singleton_self _))
    refine isImportable_iff.mp (h _ hfile n hn ?_)
    rw [(packageImports namespaceName client (models .python d)).imported]
    exact List.mem_map_of_mem hn
  · intro h f _ n hn _
    exact isImportable_iff.mpr (h n hn)

/-- A name with a class can be imported unless it is a keyword, and the imports of a package are
statements of the language unless a written name is one. -/
theorem importable_iff (namespaceName client : String) (d : Document) :
    (∀ n, IsImportable n ↔ n ∉ keywords) ∧
      (ImportsValid namespaceName client d ↔
        ∀ n ∈ writtenNames ⟨.python, namespaceName, client⟩ d, n ∉ keywords) :=
  ⟨fun _ => isImportable_iff, importsValid_iff⟩

/-- A schema whose name is a keyword. -/
def keywordSchema : Document where
  schemas := Table.ofList [("class", { kind := .object })]

/-- The class gets a mark and the module gets none. -/
theorem not_importsValid_keywordSchema :
    importOf "class" = ⟨"class", "class_"⟩ ∧
      ¬ ImportsValid "Generated.Client" "ApiClient" keywordSchema := by
  refine ⟨by decide +kernel, ?_⟩
  rw [importsValid_iff]
  intro h
  exact h "class" (by decide +kernel) (by decide)

end Library

end ApiStubs
