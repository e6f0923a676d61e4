import ApiStubs.Proofs.Library.FileNames
import ApiStubs.Proofs.Library.Package
import ApiStubs.Proofs.Naming.Validity
import ApiStubs.Proofs.Package.FieldRows
import ApiStubs.Proofs.Text.LiteralValue

/-! # Literals of a package

A package has literals in three places: the aliases of fields, the operations that the methods of
the client name, and the classes that the package file exports. Read back as literals, they are the
units of what they were written for, and so they are the same texts up to the first plane only.
-/

namespace ApiStubs

open Text

namespace Python

/-- What the alias in the row of a field stands for. -/
def readAlias? (row : String) : Option (List Nat) := do
  let text ← dropStart? margin.toList row.toList
  let typed ← dropStart? ": ".toList (text.dropWhile Character.isWord)
  let value ← dropStart? " = ".toList (typed.dropWhile (· != ' '))
  let written ← dropStart? aliasStart value
  valueBefore? ")".toList written

/-- What the operation in the body of a method stands for. -/
def readOperation? (row : String) : Option (List Nat) := do
  let body ← dropStart? margin.toList row.toList
  let written ← dropStart? "    raise NotImplementedError(".toList body
  valueBefore? ")".toList written

/-- Literals with commas between them, up to the bracket that closes their list, and what they stand
for. -/
inductive Lists : List Char → List (List Nat) → Prop
  | none : Lists "]".toList []
  | last {text : List Char} {ns : List Nat} (h : readValue? text = some (ns, "]".toList)) :
      Lists text [ns]
  | more {text rest : List Char} {ns : List Nat} {values : List (List Nat)}
      (h : readValue? text = some (ns, ", ".toList ++ rest)) (hrest : Lists rest values) :
      Lists text (ns :: values)

/-- What the aliases in the file of a model stand for. -/
def aliases (namespaceName : String) (f : SourceFile) : List (List Nat) :=
  (bodyRows namespaceName f.content).filterMap readAlias?

/-- What the operations in the file of a client stand for. -/
def operations (namespaceName : String) (f : SourceFile) : List (List Nat) :=
  (bodyRows namespaceName f.content).filterMap readOperation?

/-- The last row of a file lists the classes to export, and these are what it stands for. -/
def Exports (namespaceName : String) (f : SourceFile) (values : List (List Nat)) : Prop :=
  ∃ row ∈ (bodyRows namespaceName f.content).getLast?,
    ∃ written ∈ dropStart? "__all__ = [".toList row.toList, Lists written values

variable {row : String} {text : List Char} {values others : List (List Nat)}

section Aliases

theorem readsFields_readAlias? : ReadsFields readAlias? :=
  readsFields_bind _

theorem readAlias?_field (f : ModelField) : readAlias? (margin ++ field f) =
    if needsAlias f then some (units f.name) else none := by
  have hvalue : readAlias? (margin ++ field f) =
      (dropStart? aliasStart (fieldDefault f)).bind (valueBefore? ")".toList) := by
    rw [readAlias?, String.toList_append, dropStart?_append]
    simp only [Option.bind_eq_bind, Option.bind_some, dropStart?_field, dropStart?_fieldType]
  rw [hvalue, fieldDefault]
  split
  · rw [dropStart?_append, Option.bind_some, valueBefore?_literal]
  · rfl

theorem aliases_modelFile (namespaceName : String) (m : Model) :
    aliases namespaceName (Library.modelFile .python namespaceName m) =
      (m.fields.filter needsAlias).map fun f => units f.name := by
  have hread := readsFields_readAlias?.filterMap_bodyRows namespaceName m.name m.fields
    m.references
  rw [← List.filterMap_eq_map', List.filterMap_filter]
  simp only [readAlias?_field] at hread
  exact hread

theorem aliases_eq_codePoints_iff {namespaceName : String} {m : Model} :
    aliases namespaceName (Library.modelFile .python namespaceName m) =
      ((m.fields.filter needsAlias).map fun f => codePoints f.name) ↔
        ∀ f ∈ m.fields, needsAlias f → InFirstPlane f.name := by
  simp only [aliases_modelFile, List.map_inj_left, List.mem_filter, units_eq_codePoints_iff,
    and_imp]

end Aliases

section Operations

theorem readOperation?_of_head (h : row.toList.head? ≠ some ' ') : readOperation? row = none := by
  have hno : dropStart? margin.toList row.toList = none := dropStart?_eq_none_of_head h _
  rw [readOperation?, hno]
  rfl

theorem readOperation?_methodHead (s : Signature) :
    readOperation? (margin ++ methodHead s) = none := by
  rw [readOperation?, String.toList_append, dropStart?_append]
  unfold methodHead
  simp only [String.toList_append, List.append_assoc]
  rfl

theorem readOperation?_methodBody (s : Signature) :
    readOperation? (margin ++ methodBody s) = some (units s.label) := by
  have hbody : (methodBody s).toList = "    raise NotImplementedError(".toList ++
      ((literal s.label).toList ++ ")".toList) := by
    unfold methodBody
    simp only [String.toList_append, List.append_assoc]
  rw [readOperation?, String.toList_append, dropStart?_append, hbody]
  simp only [Option.bind_eq_bind, Option.bind_some, dropStart?_append, valueBefore?_literal]

/-- What is not in the separator comes from the blocks. -/
theorem filterMap_intercalate {α β : Type} {read : α → Option β} {sep : List α}
    (h : sep.filterMap read = []) (blocks : List (List α)) :
    (sep.intercalate blocks).filterMap read = blocks.flatMap (List.filterMap read) := by
  match blocks with
  | [] => rfl
  | [block] => simp
  | block :: next :: rest =>
    rw [List.intercalate_cons_cons, List.filterMap_append, List.filterMap_append, h,
      filterMap_intercalate h (next :: rest), List.append_nil]
    rfl

theorem filterMap_methodLines (methods : List Signature) :
    (methodLines methods).filterMap readOperation? = methods.map fun s => units s.label := by
  have hblank : [""].filterMap readOperation? = [] := by decide
  have hpair : ∀ s, (methodPair s).filterMap readOperation? = [units s.label] := by
    intro s
    rw [methodPair, List.filterMap_cons_none (readOperation?_methodHead s),
      List.filterMap_cons_some (readOperation?_methodBody s), List.filterMap_nil]
  unfold methodLines
  split
  · next hnil => rw [hnil]; decide
  · rw [filterMap_intercalate hblank, List.flatMap_map, List.map_eq_flatMap]
    simp only [hpair]

theorem operations_clientFile (namespaceName client : String) (methods : List Signature) :
    operations namespaceName (Library.clientFile .python namespaceName client methods) =
      methods.map fun s => units s.label := by
  have hpreamble : clientPreamble.filterMap readOperation? = [] := by decide
  have himports : ∀ references, (importRows references).filterMap readOperation? = [] := by
    intro references
    have himport : ∀ row ∈ references.map importLine, readOperation? row = none :=
      List.forall_mem_map.mpr fun name _ => readOperation?_of_head (by
        simp [importLine, String.toList_append])
    unfold importRows
    split
    · rfl
    · exact List.filterMap_eq_nil_iff.mpr (List.forall_mem_cons.mpr ⟨by decide, himport⟩)
  have hclass : readOperation? ("class " ++ identifier client ++ ":") = none :=
    readOperation?_of_head (by simp [String.toList_append])
  have hblank : readOperation? "" = none := by decide
  rw [operations, Library.bodyRows_clientFile, clientRows_eq_clientLines, clientLines]
  simp only [List.filterMap_append, List.filterMap_cons, List.filterMap_nil, hpreamble, himports,
    hblank, hclass, filterMap_methodLines, List.nil_append]

theorem inFirstPlane_label_iff {s : Signature} : InFirstPlane s.label ↔ InFirstPlane s.route := by
  have hverb : ∀ v : Verb, InFirstPlane v.upper := by
    intro v
    cases v <;> decide
  rw [Signature.label, operationLabel, inFirstPlane_append_iff, inFirstPlane_append_iff]
  exact and_iff_right ⟨hverb s.verb, by decide⟩

theorem operations_eq_codePoints_iff {namespaceName client : String} {methods : List Signature} :
    operations namespaceName (Library.clientFile .python namespaceName client methods) =
      (methods.map fun s => codePoints s.label) ↔ ∀ s ∈ methods, InFirstPlane s.route := by
  simp only [operations_clientFile, List.map_inj_left, units_eq_codePoints_iff,
    inFirstPlane_label_iff]

end Operations

section Listed

theorem Lists.unique (h : Lists text values) (hother : Lists text others) : values = others := by
  induction h generalizing others with
  | none =>
    cases hother with
    | none => rfl
    | last h => cases h
    | more h _ => cases h
  | last h =>
    cases hother with
    | none => cases h
    | last hread =>
      rw [h, Option.some.injEq, Prod.mk.injEq] at hread
      rw [hread.1]
    | more hread _ =>
      rw [h] at hread
      cases hread
  | more h _ ih =>
    cases hother with
    | none => cases h
    | last hread =>
      rw [h] at hread
      cases hread
    | more hread hrest =>
      rw [h, Option.some.injEq, Prod.mk.injEq, List.append_cancel_left_eq] at hread
      obtain ⟨rfl, rfl⟩ := hread
      rw [ih hrest]

theorem lists_literals (names : List String) :
    Lists ((joinWith ", " (names.map literal)).toList ++ "]".toList) (names.map units) := by
  match names with
  | [] => exact .none
  | [name] => exact .last (readValue?_literal name "]".toList)
  | name :: next :: rest =>
    refine .more ?_ (lists_literals (next :: rest))
    simp only [List.map_cons, joinWith_cons_cons, String.toList_append, List.append_assoc]
    exact readValue?_literal name _

theorem exports_packageFile_iff {namespaceName client : String} {models : List String} :
    Exports namespaceName (packageFile namespaceName client models) values ↔
      values = (exports client models).map units := by
  have hlast : (packageRows client models).getLast? =
      some (exportRow (exports client models)) := by
    rw [packageRows, List.getLast?_append]
    rfl
  have hlisted : dropStart? "__all__ = [".toList (exportRow (exports client models)).toList =
      some ((joinWith ", " ((exports client models).map literal)).toList ++ "]".toList) := by
    unfold exportRow
    simp only [String.toList_append, List.append_assoc, dropStart?_append]
  rw [Exports, bodyRows_packageFile, hlast]
  simp only [Option.mem_def, Option.some.injEq, exists_eq_left', hlisted]
  constructor
  · intro h
    exact h.unique (lists_literals _)
  · rintro rfl
    exact lists_literals _

/-- A class has the letters of its name, and besides only letters of the first plane. -/
theorem inFirstPlane_identifier_iff {name : String} :
    InFirstPlane (identifier name) ↔ ∀ c ∈ Naming.Snake.letters name, c.toNat < 0x10000 := by
  have hletters : InFirstPlane (identifier name) ↔
      ∀ c ∈ Naming.Snake.letters (identifier name), c.toNat < 0x10000 := by
    refine ⟨fun h c hc => h c (List.mem_of_mem_filter hc), fun h c hc => ?_⟩
    rcases Bool.or_eq_true .. ▸ isWord_identifier name c hc with hletter | hunder
    · exact h c (List.mem_filter.mpr ⟨hc, hletter⟩)
    · exact eq_of_beq hunder ▸ (by decide : '_'.toNat < 0x10000)
  have hparam : InFirstPlane "param" := by decide
  rw [hletters]
  rcases Naming.Snake.letters_clean name with ⟨hclean, -⟩ | ⟨hclean, -⟩
  · exact hclean ▸ Iff.rfl
  · have hword : Naming.Snake.letters (identifier name) =
        "param".toList ++ Naming.Snake.letters name := hclean
    rw [hword, List.forall_mem_append]
    exact and_iff_right hparam

theorem exports_codePoints_iff {namespaceName client : String} {models : List String} :
    Exports namespaceName (packageFile namespaceName client models)
      ((exports client models).map codePoints) ↔
        ∀ n ∈ models ++ [client], ∀ c ∈ Naming.Snake.letters n, c.toNat < 0x10000 := by
  rw [exports_packageFile_iff, eq_comm]
  simp only [List.map_inj_left, units_eq_codePoints_iff, exports, mem_sorted,
    mem_firstOccurrences, List.forall_mem_map, inFirstPlane_identifier_iff]

end Listed

end Python

namespace Library

open Naming Python

variable {namespaceName client : String} {d : Document}

/-- Every literal in the files of a library stands for what it was written for: the names of the
fields that need an alias, the operations of all methods, and the classes to export. -/
structure LiteralsDenote (namespaceName client : String) (d : Document) : Prop where
  aliases : ∀ m ∈ models .python d, aliases namespaceName (modelFile .python namespaceName m) =
    (m.fields.filter needsAlias).map fun f => codePoints f.name
  operations : operations namespaceName
    (clientFile .python namespaceName client (methods .python d)) =
      (methods .python d).map fun s => codePoints s.label
  exports : Exports namespaceName
    (packageFile namespaceName client ((models .python d).map (·.name)))
      ((exports client ((models .python d).map (·.name))).map codePoints)

/-- What is written as a literal has no character beyond the first plane. -/
structure LiteralsInFirstPlane (namespaceName client : String) (d : Document) : Prop where
  aliases : ∀ m ∈ models .python d, ∀ f ∈ m.fields, needsAlias f → InFirstPlane f.name
  routes : ∀ s ∈ methods .python d, InFirstPlane s.route
  classes : ∀ n ∈ writtenNames ⟨.python, namespaceName, client⟩ d,
    ∀ c ∈ Snake.letters n, c.toNat < 0x10000

theorem literalsDenote_iff :
    LiteralsDenote namespaceName client d ↔ LiteralsInFirstPlane namespaceName client d := by
  constructor
  · intro h
    exact ⟨fun m hm => aliases_eq_codePoints_iff.mp (h.aliases m hm),
      operations_eq_codePoints_iff.mp h.operations, exports_codePoints_iff.mp h.exports⟩
  · intro h
    exact ⟨fun m hm => aliases_eq_codePoints_iff.mpr (h.aliases m hm),
      operations_eq_codePoints_iff.mpr h.routes, exports_codePoints_iff.mpr h.classes⟩

/-- A literal stands for the text that it was written for if and only if there is no character
beyond the first plane, and so do those of a library. -/
theorem literals_denote_iff (namespaceName client : String) (d : Document) :
    (∀ s, value? (literal s) = some (codePoints s) ↔ InFirstPlane s) ∧
      (LiteralsDenote namespaceName client d ↔ LiteralsInFirstPlane namespaceName client d) :=
  ⟨fun _ => value?_literal_eq_iff, literalsDenote_iff⟩

/-- A model with a property beyond the first plane, whose alias is a pair of units. -/
def smiledModel : Document where
  schemas := Table.ofList
    [("Mood", { kind := .object, properties := [("😀", { kind := .string })] })]

theorem not_literalsDenote_smiledModel :
    value? (literal "😀") = some [0xD83D, 0xDE00] ∧ codePoints "😀" = [0x1F600] ∧
      ¬ LiteralsDenote "Generated.Client" "ApiClient" smiledModel := by
  refine ⟨by decide +kernel, by decide, ?_⟩
  rw [literalsDenote_iff]
  intro h
  have hname := h.aliases ⟨"Mood", [⟨"😀", .primitive .string⟩]⟩ (by decide +kernel)
    ⟨"😀", .primitive .string⟩ (List.mem_singleton_self _) (by decide +kernel)
  exact absurd (hname '😀' (by decide)) (by decide)

end Library

end ApiStubs
