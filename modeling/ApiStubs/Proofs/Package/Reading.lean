import ApiStubs.Proofs.Package.Rows
import Mathlib.Data.List.TakeWhile

/-! # Reading a Python package

Imports, classes and rebuilt classes are read back from the rows of a file. What is read from the
files of a package is what they were written for, since rows of other kinds start with other words.
-/

namespace ApiStubs

namespace Python

open Text

variable {row name tail : String} {c : Char} {cs ds : List Char}

/-- A class that is taken from a module of the package. -/
structure Import where
  unit : String
  name : String
deriving DecidableEq, Repr

/-- The import of a model or of the client. -/
def importOf (name : String) : Import :=
  ⟨unitName name, identifier name⟩

/-- The import that a row states, at any depth. -/
def readImport? (row : String) : Option Import := do
  let source ← dropStart? "from .".toList (row.toList.dropWhile (· == ' '))
  let name ← dropStart? " import ".toList (source.dropWhile (· != ' '))
  pure ⟨String.ofList (source.takeWhile (· != ' ')), String.ofList name⟩

/-- The class whose definition starts in a row. -/
def readClass? (row : String) : Option String := do
  let rest ← dropStart? "class ".toList row.toList
  pure (String.ofList (rest.takeWhile Character.isWord))

/-- The class that a row rebuilds. -/
def readRebuild? (row : String) : Option String :=
  if row.toList.dropWhile Character.isWord = ".model_rebuild()".toList then
    some (String.ofList (row.toList.takeWhile Character.isWord))
  else none

/-- The rows that are indented below the one that is for type checkers only. -/
def guarded (rows : List String) : List String :=
  ((rows.dropWhile (· != "if TYPE_CHECKING:")).drop 1).takeWhile fun row =>
    (dropStart? margin.toList row.toList).isSome

/-- The rows of a file below its header. -/
def bodyRows (namespaceName content : String) : List String :=
  match dropStart? (header namespaceName).toList content.toList with
  | some rest => rows (String.ofList rest)
  | none => []

theorem bodyRows_page {body : List String} (namespaceName : String)
    (h : ∀ row ∈ body, OneLine row.toList) :
    bodyRows namespaceName (header namespaceName ++ page body) = body := by
  rw [bodyRows, String.toList_append, dropStart?_append]
  exact (congrArg rows (String.ofList_toList)).trans (rows_page h)

theorem bodyRows_model (namespaceName name : String) (fields : List ModelField)
    (references : List String) :
    bodyRows namespaceName (model namespaceName name fields references) =
      modelRows name fields references := by
  rw [model_eq_page, bodyRows_page namespaceName (oneLine_modelRows name fields references)]

theorem bodyRows_client (namespaceName name : String) (methods : List Signature)
    (references : List String) :
    bodyRows namespaceName (client namespaceName name methods references) =
      clientRows name methods references := by
  rw [client_eq_page, bodyRows_page namespaceName (oneLine_clientRows name methods references)]

theorem bodyRows_packageFile (namespaceName client : String) (models : List String) :
    bodyRows namespaceName (packageFile namespaceName client models).content =
      packageRows client models := by
  rw [packageFile_eq_page, bodyRows_page namespaceName (oneLine_packageRows client models)]

theorem blank_not_mem_unitName (name : String) : ∀ c ∈ (unitName name).toList, c != ' ' := by
  intro c hc
  rw [bne_iff_ne]
  rintro rfl
  exact absurd (Naming.Snake.mem_unitName hc) (by decide +kernel)

theorem readImport?_importLine (name : String) :
    readImport? (importLine name) = some (importOf name) := by
  have hrow : (importLine name).toList.dropWhile (· == ' ') = "from .".toList ++
      ((unitName name).toList ++ (" import ".toList ++ (identifier name).toList)) := by
    simp [importLine, List.append_assoc]
  have hblank := blank_not_mem_unitName name
  have hrest : (" import ".toList ++ (identifier name).toList).takeWhile (· != ' ') = [] ∧
      (" import ".toList ++ (identifier name).toList).dropWhile (· != ' ') =
        " import ".toList ++ (identifier name).toList := by
    constructor <;> rfl
  rw [readImport?, hrow, dropStart?_append]
  simp only [Option.bind_eq_bind, Option.bind_some, List.takeWhile_append_of_pos hblank,
    List.dropWhile_append_of_pos hblank, hrest, dropStart?_append, List.append_nil,
    String.ofList_toList]
  rfl

/-- The words that rows without an identifier in front start with. -/
theorem isWord_keyword {word : String} (hw : word ∈ ["from", "class", "__all__"]) :
    ∀ c ∈ word.toList, Character.isWord c = true := by
  have hall : (["from", "class", "__all__"].all fun w => w.toList.all Character.isWord) = true := by
    decide +kernel
  exact List.all_eq_true.mp (List.all_eq_true.mp hall word hw)

/-- A row that starts with a word and goes on without a blank states no import. -/
theorem readImport?_eq_none (hs : row.toList.head? ≠ some ' ')
    (h : (row.toList.dropWhile Character.isWord).head? ≠ some ' ') : readImport? row = none := by
  have hself : row.toList.dropWhile (· == ' ') = row.toList := by
    match hcs : row.toList with
    | [] => rfl
    | c :: cs =>
      refine List.dropWhile_cons_of_neg ?_
      simpa [hcs] using hs
  have hno : dropStart? "from .".toList row.toList = none := by
    refine Option.eq_none_iff_forall_ne_some.mpr fun rest hrest => h ?_
    have hcut : "from .".toList = "from".toList ++ " .".toList := rfl
    rw [dropStart?_eq_some_iff.mp hrest, hcut, List.append_assoc,
      List.dropWhile_append_of_pos (isWord_keyword (by simp : "from" ∈ _))]
    rfl
  rw [readImport?, hself, hno]
  rfl

theorem dropWhile_indentRow (row : String) : (indentRow margin row).toList.dropWhile (· == ' ') =
    row.toList.dropWhile (· == ' ') := by
  unfold indentRow
  split
  · rfl
  · rw [String.toList_append]; rfl

theorem readImport?_indentRow (row : String) :
    readImport? (indentRow margin row) = readImport? row := by
  rw [readImport?, dropWhile_indentRow, readImport?]

/-- Behind the margin no row starts with a visible character. -/
theorem isBlank_of_head_indentRow (h : (indentRow margin row).toList.head? = some c) :
    Character.isBlank c = true := by
  unfold indentRow at h
  split at h
  · next hblank => exact List.all_eq_true.mp hblank c (List.mem_of_head? h)
  · rw [String.toList_append] at h
    obtain rfl : ' ' = c := Option.some.inj h
    decide

theorem indentRow_ne (hrow : row.toList.head? = some c) (hc : Character.isBlank c = false)
    (other : String) : indentRow margin other ≠ row := by
  intro he
  rw [isBlank_of_head_indentRow (he ▸ hrow)] at hc
  cases hc

theorem readClass?_indentRow (row : String) : readClass? (indentRow margin row) = none := by
  have hhead : (indentRow margin row).toList.head? ≠ some 'c' :=
    fun h => absurd (isBlank_of_head_indentRow h) (by decide)
  have hno : dropStart? "class ".toList (indentRow margin row).toList = none :=
    dropStart?_eq_none_of_head hhead _
  rw [readClass?, hno]
  rfl

theorem isWord_identifier (name : String) :
    ∀ c ∈ (identifier name).toList, Character.isWord c = true :=
  fun _ hc => Naming.Snake.isWord_of_mem_clean hc

section Word

variable (hc : Character.isWord c = false) (hrow : row.toList = (identifier name).toList ++ c :: cs)
include hc hrow

theorem takeWhile_word : row.toList.takeWhile Character.isWord = (identifier name).toList := by
  rw [hrow, List.takeWhile_append_of_pos (isWord_identifier name),
    List.takeWhile_cons_of_neg (by simp [hc]), List.append_nil]

theorem dropWhile_word : row.toList.dropWhile Character.isWord = c :: cs := by
  rw [hrow, List.dropWhile_append_of_pos (isWord_identifier name),
    List.dropWhile_cons_of_neg (by simp [hc])]

theorem readImport?_word (hblank : c ≠ ' ') : readImport? row = none := by
  refine readImport?_eq_none ?_ ?_
  · obtain ⟨a, as, has, ha⟩ := Naming.Snake.exists_clean_eq_cons name
    have hid : (identifier name).toList = a :: as := has
    rw [hrow, hid]
    rintro he
    rw [Option.some.inj he] at ha
    exact absurd ha (by decide)
  · rw [dropWhile_word hc hrow]
    simpa using hblank

end Word

theorem readImport?_eq_none_of_head (h : row.toList.dropWhile (· == ' ') = c :: cs) (hc : c ≠ 'f') :
    readImport? row = none := by
  have hhead : (c :: cs).head? ≠ some 'f' := fun he => hc (Option.some.inj he)
  have hno : dropStart? "from .".toList (c :: cs) = none := dropStart?_eq_none_of_head hhead _
  rw [readImport?, h, hno]
  rfl

theorem readImport?_field (f : ModelField) : readImport? (field f) = none := by
  have hrow : ∃ cs, (field f).toList = (identifier f.name).toList ++ ':' :: cs := by
    unfold field
    split <;> simp only [String.toList_append, List.append_assoc] <;> exact ⟨_, rfl⟩
  obtain ⟨cs, hcs⟩ := hrow
  exact readImport?_word (by decide) hcs (by decide)

theorem readImport?_methodHead (s : Signature) : readImport? (methodHead s) = none := by
  have hrow : ∃ cs, (methodHead s).toList.dropWhile (· == ' ') = 'a' :: cs := by
    unfold methodHead
    simp only [String.toList_append, List.append_assoc]
    exact ⟨_, rfl⟩
  obtain ⟨cs, hcs⟩ := hrow
  exact readImport?_eq_none_of_head hcs (by decide)

theorem readImport?_methodBody (s : Signature) : readImport? (methodBody s) = none := by
  have hrow : ∃ cs, (methodBody s).toList.dropWhile (· == ' ') = 'r' :: cs := by
    unfold methodBody
    simp only [String.toList_append, List.append_assoc]
    exact ⟨_, rfl⟩
  obtain ⟨cs, hcs⟩ := hrow
  exact readImport?_eq_none_of_head hcs (by decide)

theorem readImport?_classRow (name tail : String) :
    readImport? ("class " ++ identifier name ++ tail) = none := by
  have hrow : ∃ cs, ("class " ++ identifier name ++ tail).toList.dropWhile (· == ' ') =
      'c' :: cs := by
    simp only [String.toList_append, List.append_assoc]
    exact ⟨_, rfl⟩
  obtain ⟨cs, hcs⟩ := hrow
  exact readImport?_eq_none_of_head hcs (by decide)

theorem readClass?_classRow (htail : tail.toList = c :: cs) (hc : Character.isWord c = false) :
    readClass? ("class " ++ identifier name ++ tail) = some (identifier name) := by
  have hrow : (identifier name ++ tail).toList = (identifier name).toList ++ c :: cs := by
    rw [String.toList_append, htail]
  rw [readClass?, String.append_assoc, String.toList_append, dropStart?_append]
  exact congrArg some (String.toList_inj.mp (by
    rw [takeWhile_word hc hrow, String.toList_ofList]))

theorem readClass?_importLine (name : String) : readClass? (importLine name) = none := by
  simp only [readClass?, importLine, String.toList_append, List.append_assoc]
  rfl

theorem toList_rebuildRow (name : String) :
    (rebuildRow name).toList = (identifier name).toList ++ '.' :: "model_rebuild()".toList := by
  rw [rebuildRow, String.toList_append]
  rfl

theorem isWord_dot : Character.isWord '.' = false := by
  decide

theorem readImport?_rebuildRow (name : String) : readImport? (rebuildRow name) = none :=
  readImport?_word isWord_dot (toList_rebuildRow name) (by decide)

theorem readRebuild?_rebuildRow (name : String) :
    readRebuild? (rebuildRow name) = some (identifier name) := by
  have hcut : '.' :: "model_rebuild()".toList = ".model_rebuild()".toList := rfl
  rw [readRebuild?, dropWhile_word isWord_dot (toList_rebuildRow name),
    takeWhile_word isWord_dot (toList_rebuildRow name), if_pos hcut, String.ofList_toList]

theorem readRebuild?_importLine (name : String) : readRebuild? (importLine name) = none := by
  have hdrop : (importLine name).toList.dropWhile Character.isWord =
      ' ' :: ".".toList ++
        ((unitName name).toList ++ (" import ".toList ++ (identifier name).toList)) := by
    have hcut : "from .".toList = "from".toList ++ ' ' :: ".".toList := rfl
    simp only [importLine, String.toList_append, List.append_assoc, hcut]
    rw [List.dropWhile_append_of_pos (isWord_keyword (by simp : "from" ∈ _))]
    rfl
  rw [readRebuild?, hdrop, if_neg]
  exact fun he => absurd (List.cons.inj he).1 (by decide)

theorem readClass?_rebuildRow (name : String) : readClass? (rebuildRow name) = none := by
  have hno : dropStart? "class ".toList (rebuildRow name).toList = none := by
    refine Option.eq_none_iff_forall_ne_some.mpr fun rest hrest => ?_
    have hdrop := dropWhile_word isWord_dot (toList_rebuildRow name)
    have hcut : "class ".toList = "class".toList ++ [' '] := rfl
    rw [dropStart?_eq_some_iff.mp hrest, hcut, List.append_assoc,
      List.dropWhile_append_of_pos (isWord_keyword (by simp : "class" ∈ _))] at hdrop
    exact absurd (List.cons.inj hdrop).1 (by decide)
  rw [readClass?, hno]
  rfl

theorem toList_exportRow (exported : List String) :
    ∃ cs, (exportRow exported).toList = "__all__".toList ++ ' ' :: cs := by
  have hcut : "__all__ = [".toList = "__all__".toList ++ ' ' :: "= [".toList := rfl
  unfold exportRow
  simp only [String.toList_append, List.append_assoc, hcut]
  exact ⟨_, rfl⟩

theorem readImport?_exportRow (exported : List String) :
    readImport? (exportRow exported) = none := by
  obtain ⟨cs, hcs⟩ := toList_exportRow exported
  exact readImport?_eq_none_of_head (by rw [hcs]; rfl) (by decide : '_' ≠ 'f')

theorem readRebuild?_exportRow (exported : List String) :
    readRebuild? (exportRow exported) = none := by
  obtain ⟨cs, hcs⟩ := toList_exportRow exported
  rw [readRebuild?, hcs,
    List.dropWhile_append_of_pos (isWord_keyword (by simp : "__all__" ∈ _)), if_neg]
  exact fun he => absurd (List.cons.inj he).1 (by decide)

theorem readClass?_exportRow (exported : List String) :
    readClass? (exportRow exported) = none := by
  obtain ⟨cs, hcs⟩ := toList_exportRow exported
  rw [readClass?, hcs]
  rfl

theorem filterMap_eq_map {α : Type} {read : String → Option α} {write : String → String}
    {value : String → α} (h : ∀ name, read (write name) = some (value name))
    (names : List String) : (names.map write).filterMap read = names.map value := by
  have hread : read ∘ write = fun name => some (value name) := funext h
  rw [List.filterMap_map, hread, List.filterMap_eq_map']

theorem filterMap_readImport?_memberRows {rows : List String}
    (h : ∀ row ∈ rows, readImport? row = none) : (memberRows rows).filterMap readImport? = [] := by
  refine List.filterMap_eq_nil_iff.mpr (List.forall_mem_map.mpr fun row hrow => ?_)
  rw [readImport?_indentRow]
  split at hrow
  · rw [List.mem_singleton.mp hrow]; rfl
  · exact h row hrow

theorem filterMap_readClass?_memberRows (rows : List String) :
    (memberRows rows).filterMap readClass? = [] :=
  List.filterMap_eq_nil_iff.mpr (List.forall_mem_map.mpr fun row _ => readClass?_indentRow row)

theorem readImport?_of_mem_fieldRows (fields : List ModelField) :
    ∀ row ∈ fieldRows fields, readImport? row = none := by
  have hfields : ∀ row ∈ fields.map field, readImport? row = none :=
    List.forall_mem_map.mpr fun f _ => readImport?_field f
  unfold fieldRows
  split
  · exact List.forall_mem_cons.mpr ⟨rfl, List.forall_mem_cons.mpr ⟨rfl, hfields⟩⟩
  · exact hfields

theorem readImport?_of_mem_methodRows (methods : List Signature) :
    ∀ row ∈ methodRows methods, readImport? row = none := by
  fun_induction methodRows methods with
  | case1 => simp
  | case2 s => simp [readImport?_methodHead, readImport?_methodBody]
  | case3 s rest _ ih =>
    simp only [List.forall_mem_cons]
    exact ⟨readImport?_methodHead s, readImport?_methodBody s, rfl, ih⟩

theorem guardRows_eq (names : List String) : guardRows (names.map importLine) =
    if names = [] then []
    else "" :: "if TYPE_CHECKING:" :: names.map fun name => indentRow margin (importLine name) := by
  simp only [guardRows, List.map_eq_nil_iff, List.map_map]
  rfl

theorem readImport?_guardedLine (name : String) :
    readImport? (indentRow margin (importLine name)) = some (importOf name) := by
  rw [readImport?_indentRow, readImport?_importLine]

theorem imports_guardRows (names : List String) :
    (guardRows (names.map importLine)).filterMap readImport? = names.map importOf := by
  rw [guardRows_eq]
  split
  · next h => simp [h]
  · exact filterMap_eq_map readImport?_guardedLine names

theorem imports_importRows (names : List String) :
    (importRows names).filterMap readImport? = names.map importOf := by
  unfold importRows
  split
  · next h => simp [h]
  · exact filterMap_eq_map readImport?_importLine names

theorem imports_classRows (name tail : String) :
    ["", "", "class " ++ identifier name ++ tail].filterMap readImport? = [] := by
  refine List.filterMap_eq_nil_iff.mpr fun row hrow => ?_
  simp only [List.mem_cons, List.not_mem_nil, or_false] at hrow
  rcases hrow with rfl | rfl | rfl
  · rfl
  · rfl
  · exact readImport?_classRow name tail

/-- What every file starts with states no import from the package, starts no class and guards
nothing. -/
theorem silent_preamble : ∀ row ∈ modelPreamble ++ clientPreamble,
    readImport? row = none ∧ readClass? row = none ∧ row ≠ "if TYPE_CHECKING:" := by
  decide +kernel

theorem imports_modelRows (name : String) (fields : List ModelField) (references : List String) :
    (modelRows name fields references).filterMap readImport? =
      (references.filter (· ≠ name)).map importOf := by
  have htyping : modelPreamble.filterMap readImport? = [] :=
    List.filterMap_eq_nil_iff.mpr fun row hrow =>
      (silent_preamble row (List.mem_append_left _ hrow)).1
  simp only [modelRows, List.filterMap_append, htyping, imports_guardRows, imports_classRows,
    filterMap_readImport?_memberRows (readImport?_of_mem_fieldRows fields), List.nil_append,
    List.append_nil]

theorem imports_clientRows (name : String) (methods : List Signature) (references : List String) :
    (clientRows name methods references).filterMap readImport? = references.map importOf := by
  have htyping : clientPreamble.filterMap readImport? = [] :=
    List.filterMap_eq_nil_iff.mpr fun row hrow =>
      (silent_preamble row (List.mem_append_right _ hrow)).1
  simp only [clientRows, List.filterMap_append, htyping, imports_importRows, imports_classRows,
    filterMap_readImport?_memberRows (readImport?_of_mem_methodRows methods), List.nil_append,
    List.append_nil]

theorem imports_packageRows (client : String) (models : List String) :
    (packageRows client models).filterMap readImport? = (models ++ [client]).map importOf := by
  have hrebuild : (models.map rebuildRow).filterMap readImport? = [] :=
    List.filterMap_eq_nil_iff.mpr (List.forall_mem_map.mpr fun m _ => readImport?_rebuildRow m)
  have hempty : readImport? "" = none := rfl
  simp only [packageRows, List.filterMap_append, List.filterMap_cons, hempty, hrebuild,
    filterMap_eq_map readImport?_importLine, readImport?_exportRow, List.filterMap_nil,
    List.append_nil]

theorem rebuilt_packageRows (client : String) (models : List String) :
    (packageRows client models).filterMap readRebuild? = models.map identifier := by
  have himports : ((models ++ [client]).map importLine).filterMap readRebuild? = [] :=
    List.filterMap_eq_nil_iff.mpr (List.forall_mem_map.mpr fun m _ => readRebuild?_importLine m)
  have hempty : readRebuild? "" = none := rfl
  simp only [packageRows, List.filterMap_append, List.filterMap_cons, hempty, himports,
    filterMap_eq_map readRebuild?_rebuildRow, readRebuild?_exportRow, List.filterMap_nil,
    List.append_nil, List.nil_append]

theorem classes_classRows (name tail : String) (htail : tail.toList = c :: cs)
    (hc : Character.isWord c = false) :
    ["", "", "class " ++ identifier name ++ tail].filterMap readClass? = [identifier name] := by
  have hempty : readClass? "" = none := rfl
  simp only [List.filterMap_cons, hempty, readClass?_classRow htail hc, List.filterMap_nil]

theorem classes_modelRows (name : String) (fields : List ModelField) (references : List String) :
    (modelRows name fields references).filterMap readClass? = [identifier name] := by
  have htyping : modelPreamble.filterMap readClass? = [] :=
    List.filterMap_eq_nil_iff.mpr fun row hrow =>
      (silent_preamble row (List.mem_append_left _ hrow)).2.1
  have hguard : ∀ names : List String,
      (guardRows (names.map importLine)).filterMap readClass? = [] := by
    intro names
    rw [guardRows_eq]
    split
    · rfl
    · have hempty : readClass? "" = none := rfl
      have hcheck : readClass? "if TYPE_CHECKING:" = none := rfl
      simp only [List.filterMap_cons, hempty, hcheck]
      exact List.filterMap_eq_nil_iff.mpr (List.forall_mem_map.mpr fun name _ =>
        readClass?_indentRow (importLine name))
  simp only [modelRows, List.filterMap_append, htyping, hguard, filterMap_readClass?_memberRows,
    classes_classRows name "(BaseModel):" rfl (by decide), List.nil_append, List.append_nil]

theorem classes_clientRows (name : String) (methods : List Signature) (references : List String) :
    (clientRows name methods references).filterMap readClass? = [identifier name] := by
  have htyping : clientPreamble.filterMap readClass? = [] :=
    List.filterMap_eq_nil_iff.mpr fun row hrow =>
      (silent_preamble row (List.mem_append_right _ hrow)).2.1
  have himports : (importRows references).filterMap readClass? = [] := by
    unfold importRows
    split
    · rfl
    · have hempty : readClass? "" = none := rfl
      rw [List.filterMap_cons_none hempty]
      exact List.filterMap_eq_nil_iff.mpr (List.forall_mem_map.mpr fun name _ =>
        readClass?_importLine name)
  simp only [clientRows, List.filterMap_append, htyping, himports, filterMap_readClass?_memberRows,
    classes_classRows name ":" rfl (by decide), List.nil_append, List.append_nil]

theorem classes_packageRows (client : String) (models : List String) :
    (packageRows client models).filterMap readClass? = [] := by
  have himports : ((models ++ [client]).map importLine).filterMap readClass? = [] :=
    List.filterMap_eq_nil_iff.mpr (List.forall_mem_map.mpr fun m _ => readClass?_importLine m)
  have hrebuild : (models.map rebuildRow).filterMap readClass? = [] :=
    List.filterMap_eq_nil_iff.mpr (List.forall_mem_map.mpr fun m _ => readClass?_rebuildRow m)
  have hempty : readClass? "" = none := rfl
  simp only [packageRows, List.filterMap_append, List.filterMap_cons, hempty, himports, hrebuild,
    readClass?_exportRow, List.filterMap_nil, List.append_nil]

theorem indentRow_importLine (name : String) :
    indentRow margin (importLine name) = margin ++ importLine name :=
  indentRow_eq (c := 'f') (by simp [importLine]) (by decide)

theorem guarded_of_forall_ne {rows : List String} (h : ∀ row ∈ rows, row ≠ "if TYPE_CHECKING:") :
    guarded rows = [] := by
  have hdrop : rows.dropWhile (· != "if TYPE_CHECKING:") = [] :=
    List.dropWhile_eq_nil_iff.mpr fun row hrow => by simpa using h row hrow
  rw [guarded, hdrop]
  rfl

theorem guarded_append {before : List String} (h : ∀ row ∈ before, row ≠ "if TYPE_CHECKING:")
    (names after : List String) :
    guarded (before ++ "if TYPE_CHECKING:" ::
      (names.map (fun name => indentRow margin (importLine name)) ++ "" :: after)) =
        names.map fun name => indentRow margin (importLine name) := by
  have hbefore : ∀ row ∈ before, (row != "if TYPE_CHECKING:") = true := fun row hrow => by
    simpa using h row hrow
  have hindented : ∀ row ∈ names.map fun name => indentRow margin (importLine name),
      (dropStart? margin.toList row.toList).isSome = true := by
    refine List.forall_mem_map.mpr fun name _ => ?_
    rw [indentRow_importLine, String.toList_append, dropStart?_append]
    rfl
  rw [guarded, List.dropWhile_append_of_pos hbefore, List.dropWhile_cons_of_neg (by simp),
    List.drop_one, List.tail_cons, List.takeWhile_append_of_pos hindented,
    List.takeWhile_cons_of_neg (by decide), List.append_nil]

theorem guarded_modelRows (name : String) (fields : List ModelField) (references : List String) :
    (guarded (modelRows name fields references)).filterMap readImport? =
      (references.filter (· ≠ name)).map importOf := by
  have hpreamble : ∀ row ∈ modelPreamble ++ [""], row ≠ "if TYPE_CHECKING:" := by
    refine List.forall_mem_append.mpr ⟨fun row hrow => ?_, by simp⟩
    exact (silent_preamble row (List.mem_append_left _ hrow)).2.2
  have hrows : modelRows name fields references = modelPreamble ++
      (guardRows ((references.filter (· ≠ name)).map importLine) ++
        "" :: "" :: ("class " ++ identifier name ++ "(BaseModel):") ::
          memberRows (fieldRows fields)) := by
    simp [modelRows, List.append_assoc]
  rw [hrows, guardRows_eq]
  split
  · next hnil =>
    have hguard : ∀ row ∈ modelPreamble ++ ([] ++ "" :: "" ::
        ("class " ++ identifier name ++ "(BaseModel):") :: memberRows (fieldRows fields)),
          row ≠ "if TYPE_CHECKING:" := by
      simp only [List.forall_mem_append, List.forall_mem_cons] at hpreamble ⊢
      refine ⟨hpreamble.1, by simp, by simp, by simp, ?_, ?_⟩
      · intro he
        have hhead := congrArg (fun s => s.toList.head?) he
        simp [String.toList_append] at hhead
      · exact List.forall_mem_map.mpr fun row _ => indentRow_ne (c := 'i') rfl (by decide) row
    rw [hnil, guarded_of_forall_ne hguard]
    rfl
  · have happend := guarded_append hpreamble (references.filter (· ≠ name))
      ("" :: ("class " ++ identifier name ++ "(BaseModel):") :: memberRows (fieldRows fields))
    simp only [List.append_assoc, List.cons_append, List.nil_append] at happend ⊢
    rw [happend]
    exact filterMap_eq_map readImport?_guardedLine _

end Python

end ApiStubs
