import ApiStubs.Proofs.Text.Rows
import ApiStubs.Proofs.Naming.Identifier

/-! # Rows of a Python package

Below its header, every file of a Python package is a page of rows. How many rows there are and what
each of them looks like follows from the counts of fields, methods and references, since no name,
literal or type has a line break in it.
-/

namespace ApiStubs.Python

open Text

variable {sep name : String} {texts rows : List String}
  {fields : List ModelField} {methods : List Signature}

/-- The rows of a class behind the margin, or the statement that does nothing. -/
def memberRows (rows : List String) : List String :=
  (if rows = [] then ["pass"] else rows).map (indentRow Python.margin)

def fieldRows (fields : List ModelField) : List String :=
  if fields.any needsAlias then
    "model_config = ConfigDict(populate_by_name=True)" :: "" :: fields.map field
  else fields.map field

def guardRows (imports : List String) : List String :=
  if imports = [] then []
  else "" :: "if TYPE_CHECKING:" :: imports.map (indentRow Python.margin)

/-- What every model needs from elsewhere. -/
def modelPreamble : List String :=
  ["", "from typing import TYPE_CHECKING, Any, List, Optional", "",
    "from pydantic import BaseModel, ConfigDict, Field"]

def clientPreamble : List String :=
  ["", "from typing import Any, List, Optional"]

def modelRows (name : String) (fields : List ModelField) (references : List String) :
    List String :=
  modelPreamble ++ guardRows ((references.filter (· ≠ name)).map importLine) ++
    ["", "", "class " ++ identifier name ++ "(BaseModel):"] ++ memberRows (fieldRows fields)

def methodHead (s : Signature) : String :=
  "async def " ++ identifier s.name ++ "(" ++
    joinWith ", " ("self" :: s.arguments.map argument) ++ ") -> " ++ result s.result ++ ":"

def methodBody (s : Signature) : String :=
  "    raise NotImplementedError(" ++ literal s.label ++ ")"

/-- Two rows for every method, and an empty one between two methods. -/
def methodRows : List Signature → List String
  | [] => []
  | [s] => [methodHead s, methodBody s]
  | s :: rest => methodHead s :: methodBody s :: "" :: methodRows rest

def importRows (references : List String) : List String :=
  if references = [] then [] else "" :: references.map importLine

def clientRows (name : String) (methods : List Signature) (references : List String) :
    List String :=
  clientPreamble ++ importRows references ++ ["", "", "class " ++ identifier name ++ ":"] ++
    memberRows (methodRows methods)

def rebuildRow (name : String) : String :=
  identifier name ++ ".model_rebuild()"

def exportRow (exported : List String) : String :=
  "__all__ = [" ++ joinWith ", " (exported.map literal) ++ "]"

def packageRows (client : String) (models : List String) : List String :=
  "" :: (models ++ [client]).map importLine ++ "" :: models.map rebuildRow ++
    ["", exportRow (exports client models)]

theorem joinWith_eq_empty_iff : joinWith "\n" rows = "" ↔ rows = [] ∨ rows = [""] := by
  match rows with
  | [] => simp [joinWith]
  | [row] => simp [joinWith]
  | row :: next :: rest =>
    simp [joinWith_cons_cons, String.append_assoc, ← String.toList_eq_nil_iff]

theorem members_eq_page (hjoin : joinWith sep texts = joinWith "\n" rows) (hempty : rows ≠ [""])
    (h : ∀ row ∈ rows, OneLine row.toList) :
    members texts sep ++ "\n" = page (memberRows rows) := by
  have hiff : (joinWith sep texts).isEmpty = true ↔ rows = [] := by
    rw [String.isEmpty_iff, hjoin, joinWith_eq_empty_iff, or_iff_left hempty]
  unfold members memberRows
  simp only [hiff]
  split
  · exact indent_joinWith ["pass"] (by simp) (by decide)
  · next hne => rw [hjoin]; exact indent_joinWith rows hne h

theorem joinWith_fieldRows : joinWith "\n"
    (if fields.any needsAlias then modelConfig :: fields.map field else fields.map field) =
      joinWith "\n" (fieldRows fields) := by
  unfold fieldRows
  split
  · next hany =>
    obtain ⟨f, rest, rfl⟩ := List.exists_cons_of_ne_nil (l := fields) (by rintro rfl; simp at hany)
    simp only [List.map_cons, joinWith_cons_cons, ← String.append_assoc]
    rfl
  · rfl

theorem fill_methodTemplate (name parameters returned operation : String) :
    (methodTemplate .unimplemented).fill [("name", name), ("parameters", parameters),
        ("return_type", returned), ("operation", operation)] =
      "async def " ++ name ++ "(" ++ parameters ++ ") -> " ++ returned ++
        (":" ++ "\n" ++ "    raise NotImplementedError(") ++ operation ++ ")" := by
  simp only [methodTemplate, Template.fill, List.map_cons, List.map_nil, concat, List.lookup_cons]
  simp [String.append_assoc]

theorem method_eq (s : Signature) : method s = methodHead s ++ "\n" ++ methodBody s := by
  unfold method methodHead methodBody
  simp only [fill_methodTemplate, String.append_assoc]

theorem methodRows_cons_cons (s next : Signature) (rest : List Signature) :
    methodRows (s :: next :: rest) =
      methodHead s :: methodBody s :: "" :: methodRows (next :: rest) :=
  methodRows.eq_3 _ _ (by simp)

theorem joinWith_methodRows (methods : List Signature) :
    joinWith "\n\n" (methods.map method) = joinWith "\n" (methodRows methods) := by
  induction methods with
  | nil => rfl
  | cons s rest ih =>
    match rest with
    | [] => exact method_eq s
    | next :: rest =>
      obtain ⟨row, rows, hrows⟩ : ∃ row rows, methodRows (next :: rest) = row :: rows := by
        cases rest <;> exact ⟨_, _, rfl⟩
      have hcut : "\n\n" = "\n" ++ "\n" := by simp
      rw [List.map_cons, List.map_cons, joinWith_cons_cons, ← List.map_cons, ih,
        methodRows_cons_cons, hrows, method_eq, hcut]
      simp only [joinWith_cons_cons, String.append_assoc, String.empty_append]

section OneLine

variable {quoteNames : Bool}

theorem oneLine_identifier (name : String) : OneLine (identifier name).toList :=
  oneLine_of_forall (fun _ hc => Naming.Snake.isWord_of_mem_clean hc) (by decide +kernel)

theorem oneLine_unitName (name : String) : OneLine (unitName name).toList := by
  have hclass : ∀ c ∈ (unitName name).toList, (Character.isWord c ||
      Character.isIdentifierStart c || Character.isIdentifierContinue c) = true := by
    intro c hc
    simpa [or_assoc] using Naming.Snake.mem_unitName hc
  exact oneLine_of_forall hclass (by decide +kernel)

theorem oneLine_importLine (name : String) : OneLine (importLine name).toList := by
  simp only [importLine, String.toList_append, oneLine_append]
  exact ⟨⟨⟨by decide, oneLine_unitName name⟩, by decide⟩, oneLine_identifier name⟩

theorem oneLine_primitive (p : Primitive) : OneLine (primitive p).toList := by
  cases p <;> decide

theorem oneLine_type (d : Descriptor) : OneLine (type quoteNames d).toList := by
  induction d with
  | primitive p => exact oneLine_primitive p
  | array item ih =>
    simp only [type, String.toList_append, oneLine_append]
    exact ⟨⟨by decide, ih⟩, by decide⟩
  | named name =>
    unfold type
    split
    · simp only [String.toList_append, oneLine_append]
      exact ⟨⟨by decide, oneLine_identifier name⟩, by decide⟩
    · exact oneLine_identifier name
  | any => exact show OneLine anyName.toList by decide

theorem oneLine_fieldType (d : Descriptor) : OneLine (fieldType d).toList := by
  unfold fieldType
  split
  · exact oneLine_type _
  · simp only [String.toList_append, oneLine_append]
    exact ⟨⟨by decide, oneLine_type d⟩, by decide⟩

theorem oneLine_field (f : ModelField) : OneLine (field f).toList := by
  unfold field
  split
  · simp only [String.toList_append, oneLine_append]
    exact ⟨⟨⟨⟨⟨oneLine_identifier _, by decide⟩, oneLine_fieldType _⟩, by decide⟩,
      oneLine_literal _⟩, by decide⟩
  · simp only [String.toList_append, oneLine_append]
    exact ⟨⟨⟨oneLine_identifier _, by decide⟩, oneLine_fieldType _⟩, by decide⟩

theorem oneLine_argument (a : Argument) : OneLine (argument a).toList := by
  simp only [argument, String.toList_append, oneLine_append]
  exact ⟨⟨oneLine_identifier _, by decide⟩, oneLine_type _⟩

theorem oneLine_result (c : Completion) : OneLine (result c).toList := by
  unfold result
  split
  · decide
  · exact oneLine_type _

theorem oneLine_methodHead (s : Signature) : OneLine (methodHead s).toList := by
  have harguments : ∀ row ∈ "self" :: s.arguments.map argument, OneLine row.toList := by
    refine List.forall_mem_cons.mpr ⟨by decide, fun row hrow => ?_⟩
    obtain ⟨a, -, rfl⟩ := List.mem_map.mp hrow
    exact oneLine_argument a
  unfold methodHead
  simp only [String.toList_append, oneLine_append]
  exact ⟨⟨⟨⟨⟨⟨by decide, oneLine_identifier _⟩, by decide⟩,
    oneLine_joinWith (by decide) harguments⟩, by decide⟩, oneLine_result _⟩, by decide⟩

theorem oneLine_methodBody (s : Signature) : OneLine (methodBody s).toList := by
  unfold methodBody
  simp only [String.toList_append, oneLine_append]
  exact ⟨⟨by decide, oneLine_literal _⟩, by decide⟩

theorem oneLine_rebuildRow (name : String) : OneLine (rebuildRow name).toList := by
  simp only [rebuildRow, String.toList_append, oneLine_append]
  exact ⟨oneLine_identifier name, by decide⟩

theorem oneLine_exportRow (exported : List String) : OneLine (exportRow exported).toList := by
  have hliterals : ∀ row ∈ exported.map literal, OneLine row.toList := by
    intro row hrow
    obtain ⟨name, -, rfl⟩ := List.mem_map.mp hrow
    exact oneLine_literal name
  unfold exportRow
  simp only [String.toList_append, oneLine_append]
  exact ⟨⟨by decide, oneLine_joinWith (by decide) hliterals⟩, by decide⟩

theorem oneLine_fieldRows (fields : List ModelField) :
    ∀ row ∈ fieldRows fields, OneLine row.toList := by
  have hfields : ∀ row ∈ fields.map field, OneLine row.toList :=
    List.forall_mem_map.mpr fun f _ => oneLine_field f
  unfold fieldRows
  split
  · simp only [List.forall_mem_cons]
    exact ⟨by decide, by decide, hfields⟩
  · exact hfields

theorem oneLine_methodRows (methods : List Signature) :
    ∀ row ∈ methodRows methods, OneLine row.toList := by
  fun_induction methodRows methods with
  | case1 => simp
  | case2 s => simpa using ⟨oneLine_methodHead s, oneLine_methodBody s⟩
  | case3 s rest _ ih =>
    simp only [List.forall_mem_cons]
    exact ⟨oneLine_methodHead s, oneLine_methodBody s, by decide, ih⟩

theorem oneLine_memberRows (h : ∀ row ∈ rows, OneLine row.toList) :
    ∀ row ∈ memberRows rows, OneLine row.toList := by
  refine List.forall_mem_map.mpr fun row hrow => oneLine_indentRow (by decide) ?_
  split at hrow
  · rw [List.mem_singleton.mp hrow]; decide
  · exact h row hrow

theorem oneLine_importLines (names : List String) :
    ∀ row ∈ names.map importLine, OneLine row.toList :=
  List.forall_mem_map.mpr fun name _ => oneLine_importLine name

theorem oneLine_classRow {tail : String} (htail : OneLine tail.toList) (name : String) :
    OneLine ("class " ++ identifier name ++ tail).toList := by
  simp only [String.toList_append, oneLine_append]
  exact ⟨⟨by decide, oneLine_identifier name⟩, htail⟩

theorem oneLine_modelRows (name : String) (fields : List ModelField) (references : List String) :
    ∀ row ∈ modelRows name fields references, OneLine row.toList := by
  have hguard : ∀ row ∈ guardRows ((references.filter (· ≠ name)).map importLine),
      OneLine row.toList := by
    unfold guardRows
    split
    · simp
    · simp only [List.forall_mem_cons]
      exact ⟨by decide, by decide, List.forall_mem_map.mpr fun row hrow =>
        oneLine_indentRow (by decide) (oneLine_importLines _ row hrow)⟩
  simp only [modelRows, List.forall_mem_append, List.forall_mem_cons]
  refine ⟨⟨⟨by decide, hguard⟩, ?_⟩, oneLine_memberRows (oneLine_fieldRows fields)⟩
  exact ⟨by decide, by decide, oneLine_classRow (by decide) name, by simp⟩

theorem oneLine_clientRows (name : String) (methods : List Signature) (references : List String) :
    ∀ row ∈ clientRows name methods references, OneLine row.toList := by
  have himports : ∀ row ∈ importRows references, OneLine row.toList := by
    unfold importRows
    split
    · simp
    · exact List.forall_mem_cons.mpr ⟨by decide, oneLine_importLines references⟩
  simp only [clientRows, List.forall_mem_append, List.forall_mem_cons]
  refine ⟨⟨⟨by decide, himports⟩, ?_⟩, oneLine_memberRows (oneLine_methodRows methods)⟩
  exact ⟨by decide, by decide, oneLine_classRow (by decide) name, by simp⟩

theorem oneLine_packageRows (client : String) (models : List String) :
    ∀ row ∈ packageRows client models, OneLine row.toList := by
  simp only [packageRows, List.forall_mem_append, List.forall_mem_cons]
  exact ⟨⟨⟨by decide, oneLine_importLines _⟩, by decide, List.forall_mem_map.mpr fun m _ =>
    oneLine_rebuildRow m⟩, by decide, oneLine_exportRow _, by simp⟩

end OneLine

theorem mem_memberRows (h : ∃ row ∈ rows, indentRow Python.margin row = name) :
    name ∈ memberRows rows := by
  obtain ⟨row, hrow, rfl⟩ := h
  rw [memberRows, if_neg (List.ne_nil_of_mem hrow)]
  exact List.mem_map_of_mem hrow

theorem indentRow_field (f : ModelField) : indentRow margin (field f) = margin ++ field f := by
  have hcolon : ':' ∈ (field f).toList := by
    unfold field
    split <;> simp
  exact indentRow_eq hcolon (by decide)

theorem indentRow_methodHead (s : Signature) :
    indentRow margin (methodHead s) = margin ++ methodHead s := by
  have hvisible : 'a' ∈ (methodHead s).toList := by
    unfold methodHead
    simp
  exact indentRow_eq hvisible (by decide)

/-- Every field has a row of its own. -/
theorem field_mem_modelRows {f : ModelField} (hf : f ∈ fields) (name : String)
    (references : List String) : Python.margin ++ field f ∈ modelRows name fields references := by
  have hrow : field f ∈ fieldRows fields := by
    have hmem := List.mem_map_of_mem (f := field) hf
    unfold fieldRows
    split
    · exact List.mem_cons_of_mem _ (List.mem_cons_of_mem _ hmem)
    · exact hmem
  exact List.mem_append_right _ (mem_memberRows ⟨_, hrow, indentRow_field f⟩)

theorem methodHead_mem_methodRows {s : Signature} (hs : s ∈ methods) :
    methodHead s ∈ methodRows methods := by
  fun_induction methodRows methods with
  | case1 => cases hs
  | case2 t => simp [List.mem_singleton.mp hs]
  | case3 t rest _ ih =>
    rcases List.mem_cons.mp hs with rfl | hs
    · exact List.mem_cons_self
    · simp [ih hs]

/-- Every method starts in a row of its own. -/
theorem methodHead_mem_clientRows {s : Signature} (hs : s ∈ methods) (name : String)
    (references : List String) :
    Python.margin ++ methodHead s ∈ clientRows name methods references := by
  exact List.mem_append_right _
    (mem_memberRows ⟨_, methodHead_mem_methodRows hs, indentRow_methodHead s⟩)

theorem page_guardRows (h : ∀ row ∈ texts, OneLine row.toList) :
    page (guardRows texts) = typeChecking texts := by
  unfold guardRows typeChecking
  simp only [List.isEmpty_iff]
  split
  · rfl
  · next hne =>
    have hcut : "\nif TYPE_CHECKING:\n" = "\n" ++ ("if TYPE_CHECKING:" ++ "\n") := by simp
    rw [page_cons, page_cons, ← indent_joinWith texts hne h, hcut]
    simp only [String.append_assoc, String.empty_append]

theorem page_importRows (references : List String) :
    page (importRows references) =
      concat (references.map fun r => "\n" ++ importLine r) ++
        if (concat (references.map fun r => "\n" ++ importLine r)).isEmpty then "" else "\n" := by
  have hshift : ∀ names : List String, "\n" ++ page (names.map importLine) =
      concat (names.map fun r => "\n" ++ importLine r) ++ "\n" := by
    intro names
    induction names with
    | nil => rfl
    | cons name names ih =>
      simp only [List.map_cons, page_cons, concat, String.append_assoc, ← ih]
  cases references with
  | nil => rfl
  | cons r rest =>
    have hne : concat ((r :: rest).map fun r => "\n" ++ importLine r) ≠ "" := by
      simp [concat, ← String.toList_eq_nil_iff]
    rw [if_neg (mt String.isEmpty_iff.mp hne), ← hshift, importRows, if_neg (by simp), page_cons,
      String.empty_append]

theorem page_classRows (name tail : String) :
    page ["", "", "class " ++ identifier name ++ tail] =
      "\n\nclass " ++ identifier name ++ (tail ++ "\n") := by
  have hcut : "\n\nclass " = "\n" ++ ("\n" ++ "class ") := by simp
  rw [hcut]
  simp only [page, List.map_cons, List.map_nil, concat, String.append_assoc, String.empty_append,
    String.append_empty]

theorem fieldRows_ne_singleton (fields : List ModelField) : fieldRows fields ≠ [""] := by
  unfold fieldRows
  split
  · simp
  · match fields with
    | [] => simp
    | f :: rest =>
      have hne : field f ≠ "" := by
        unfold field
        split <;> simp [← String.toList_eq_nil_iff]
      simp [hne]

theorem methodRows_ne_singleton (methods : List Signature) : methodRows methods ≠ [""] := by
  fun_cases methodRows methods <;> simp

theorem model_eq_page (namespaceName name : String) (fields : List ModelField)
    (references : List String) : model namespaceName name fields references =
      header namespaceName ++ page (modelRows name fields references) := by
  have hmembers := members_eq_page joinWith_fieldRows (fieldRows_ne_singleton fields)
    (oneLine_fieldRows fields)
  have himports : page modelPreamble =
        "\nfrom typing import TYPE_CHECKING, Any, List, Optional\n" ++
          "\nfrom pydantic import BaseModel, ConfigDict, Field\n" := by
    simp [modelPreamble, page, concat]
  have hclass : "(BaseModel):" ++ "\n" = "(BaseModel):\n" := by simp
  simp only [modelRows, page_append, page_guardRows (oneLine_importLines _), page_classRows,
    ← hmembers, himports, hclass]
  simp only [model, String.append_assoc]

theorem client_eq_page (namespaceName name : String) (methods : List Signature)
    (references : List String) : client namespaceName name methods references =
      header namespaceName ++ page (clientRows name methods references) := by
  have hmembers := members_eq_page (joinWith_methodRows methods) (methodRows_ne_singleton methods)
    (oneLine_methodRows methods)
  have himports : page clientPreamble = "\nfrom typing import Any, List, Optional\n" := by
    simp [clientPreamble, page, concat]
  have hclass : ":" ++ "\n" = ":\n" := by simp
  simp only [clientRows, page_append, page_importRows, page_classRows, ← hmembers, himports, hclass]
  simp only [client, String.append_assoc]

theorem page_rebuildRows (models : List String) : page (models.map rebuildRow) =
    concat (models.map fun m => identifier m ++ ".model_rebuild()\n") := by
  induction models with
  | nil => rfl
  | cons m models ih =>
    have hcut : ".model_rebuild()\n" = ".model_rebuild()" ++ "\n" := by simp
    simp only [List.map_cons, page_cons, ih, concat, rebuildRow, hcut, String.append_assoc]

theorem packageFile_eq_page (namespaceName client : String) (models : List String) :
    (packageFile namespaceName client models).content =
      header namespaceName ++ page (packageRows client models) := by
  have himports := joinWith_newline ((models ++ [client]).map importLine) (by simp)
  have hbetween : "\n\n" = "\n" ++ "\n" := by simp
  have hopen : "\n__all__ = [" = "\n" ++ "__all__ = [" := by simp
  have hclose : "]\n" = "]" ++ "\n" := by simp
  have hnil : page [] = "" := rfl
  simp only [packageRows, page_append, page_cons, ← himports, page_rebuildRows, hnil, exportRow]
  simp only [packageFile, hbetween, hopen, hclose, String.append_assoc, String.empty_append,
    String.append_empty]

end ApiStubs.Python
