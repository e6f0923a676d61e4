import ApiStubs.Proofs.Package.Lines

/-! # Rows of fields

In the text of a model the rows of fields are the only ones with a colon behind the first word of an
indented row. Whatever looks for such a row reads the fields of a model in their order, and nothing
else.
-/

namespace ApiStubs.Python

open Text

variable {α : Type} {read : String → Option α}

/-- What is read from rows, with nothing read from a row without the margin or without a colon and a
blank behind the word that follows the margin. -/
structure ReadsFields (read : String → Option α) : Prop where
  outside : ∀ row, dropStart? margin.toList row.toList = none → read row = none
  wordless : ∀ row, dropStart? ": ".toList (row.toList.dropWhile Character.isWord) = none →
    read (margin ++ row) = none

/-- A reader that goes on with the text behind the margin and with what follows the colon. -/
theorem readsFields_bind (next : List Char → List Char → Option α) :
    ReadsFields fun row => (dropStart? margin.toList row.toList).bind fun text =>
      (dropStart? ": ".toList (text.dropWhile Character.isWord)).bind (next text) where
  outside row h := by
    rw [h]
    rfl
  wordless row h := by
    rw [String.toList_append, dropStart?_append, Option.bind_some, h, Option.bind_none]

/-- How the value of a field that keeps its name starts. -/
def aliasStart : List Char :=
  "Field(default=None, alias=".toList

/-- What stands behind the equals sign of a field. -/
def fieldDefault (f : ModelField) : List Char :=
  if needsAlias f then aliasStart ++ ((literal f.name).toList ++ ")".toList) else "None".toList

section Others

variable (h : ReadsFields read)
include h

theorem ReadsFields.importLine (name : String) : read (margin ++ importLine name) = none := by
  refine h.wordless _ ?_
  have hrow : (Python.importLine name).toList =
      "from".toList ++ (" .".toList ++ ((unitName name).toList ++
        (" import ".toList ++ (identifier name).toList))) := by
    simp [Python.importLine, String.toList_append]
  rw [hrow, List.dropWhile_append_of_pos (isWord_keyword (by simp : "from" ∈ _))]
  rfl

theorem ReadsFields.guardLines (names : List String) :
    (guardLines names).filterMap read = [] := by
  have hlines : ∀ row ∈ names.map fun name => margin ++ Python.importLine name, read row = none :=
    List.forall_mem_map.mpr fun name _ => h.importLine name
  refine List.filterMap_eq_nil_iff.mpr ?_
  unfold Python.guardLines
  split
  · simp
  · simp only [List.forall_mem_cons]
    exact ⟨h.outside _ (by decide), h.outside _ (by decide), hlines⟩

theorem ReadsFields.classLines (name : String) :
    ["", "", "class " ++ identifier name ++ "(BaseModel):"].filterMap read = [] := by
  have hclass : dropStart? margin.toList ("class " ++ identifier name ++ "(BaseModel):").toList =
      none := by
    rw [String.append_assoc, String.toList_append]
    rfl
  refine List.filterMap_eq_nil_iff.mpr ?_
  simp only [List.forall_mem_cons]
  exact ⟨h.outside _ (by decide), h.outside _ (by decide), h.outside _ hclass, by simp⟩

theorem ReadsFields.fieldLines (fields : List ModelField) :
    (fieldLines fields).filterMap read = fields.filterMap fun f => read (margin ++ field f) := by
  have hpass : read (margin ++ "pass") = none := h.wordless _ (by decide)
  have hconfig : read (margin ++ "model_config = ConfigDict(populate_by_name=True)") = none :=
    h.wordless _ (by decide)
  have hempty : read "" = none := h.outside _ (by decide)
  unfold Python.fieldLines
  split
  · next hnil => simp [hnil, hpass]
  · rw [List.filterMap_append, List.filterMap_map]
    split <;> simp [hconfig, hempty]

/-- All that is read from the text of a model comes from its fields, in their order. -/
theorem ReadsFields.filterMap_bodyRows (namespaceName name : String) (fields : List ModelField)
    (references : List String) :
    (bodyRows namespaceName (model namespaceName name fields references)).filterMap read =
      fields.filterMap fun f => read (margin ++ field f) := by
  have hpreamble : modelPreamble.filterMap read = [] := by
    have houtside : ∀ row ∈ modelPreamble, dropStart? margin.toList row.toList = none := by decide
    exact List.filterMap_eq_nil_iff.mpr fun row hrow => h.outside row (houtside row hrow)
  rw [bodyRows_model, modelRows_eq_modelLines, modelLines]
  simp only [List.filterMap_append, hpreamble, h.guardLines, h.classLines, h.fieldLines,
    List.nil_append]

end Others

section Field

theorem blank_not_mem_identifier (name : String) : ∀ c ∈ (identifier name).toList, c != ' ' := by
  intro c hc
  rw [bne_iff_ne]
  rintro rfl
  exact absurd (isWord_identifier name ' ' hc) (by decide)

theorem blank_not_mem_type (quoteNames : Bool) (d : Descriptor) :
    ∀ c ∈ (type quoteNames d).toList, c != ' ' := by
  induction d with
  | primitive p =>
    have hall : ∀ p, (primitive p).toList.all (· != ' ') = true := by
      intro p
      cases p <;> decide
    exact List.all_eq_true.mp (hall p)
  | array item ih =>
    simp only [type, String.toList_append, List.forall_mem_append]
    exact ⟨⟨by simp, ih⟩, by simp⟩
  | named name =>
    unfold type
    split
    · simp only [String.toList_append, List.forall_mem_append]
      exact ⟨⟨by simp, blank_not_mem_identifier name⟩, by simp⟩
    · exact blank_not_mem_identifier name
  | any => exact show ∀ c ∈ anyName.toList, c != ' ' by simp [anyName]

theorem blank_not_mem_fieldType (d : Descriptor) : ∀ c ∈ (fieldType d).toList, c != ' ' := by
  unfold fieldType
  split
  · exact blank_not_mem_type true .any
  · simp only [String.toList_append, List.forall_mem_append]
    exact ⟨⟨by simp, blank_not_mem_type true d⟩, by simp⟩

/-- A field is its identifier, its type and its default. -/
theorem toList_field (f : ModelField) : (field f).toList = (identifier f.name).toList ++
    (": ".toList ++ ((fieldType f.type).toList ++ (" = ".toList ++ fieldDefault f))) := by
  have halias : " = Field(default=None, alias=".toList = " = ".toList ++ aliasStart := by decide
  have hnone : " = None".toList = " = ".toList ++ "None".toList := by decide
  unfold field fieldDefault
  split
  · simp only [String.toList_append, List.append_assoc, halias]
  · simp only [String.toList_append, List.append_assoc, hnone]

theorem takeWhile_field (f : ModelField) :
    (field f).toList.takeWhile Character.isWord = (identifier f.name).toList :=
  takeWhile_word (by decide : Character.isWord ':' = false) (toList_field f)

/-- Behind the identifier stand a colon and the type. -/
theorem dropStart?_field (f : ModelField) :
    dropStart? ": ".toList ((field f).toList.dropWhile Character.isWord) =
      some ((fieldType f.type).toList ++ (" = ".toList ++ fieldDefault f)) := by
  have hword := dropWhile_word (by decide : Character.isWord ':' = false) (toList_field f)
  rw [hword]
  exact dropStart?_append ": ".toList _

/-- Behind the type stand the equals sign and the default. -/
theorem dropStart?_fieldType (f : ModelField) :
    dropStart? " = ".toList (((fieldType f.type).toList ++
      (" = ".toList ++ fieldDefault f)).dropWhile (· != ' ')) = some (fieldDefault f) := by
  rw [List.dropWhile_append_of_pos (blank_not_mem_fieldType f.type)]
  exact dropStart?_append " = ".toList _

end Field

end ApiStubs.Python
