import ApiStubs.Proofs.Character.Ranges
import ApiStubs.Proofs.Package.Reading

/-! # Lines of a Python package

Below its header, the file of a model or of the client has lines of a fixed kind, as many as there
are references, fields and methods. Their depths depend on these counts alone, whatever the names
are, since no name brings a line break with it and no line starts with a name that is blank.
-/

namespace ApiStubs

namespace Text

variable {c : Char} {line : String} {rest : List String} {n : Nat}

/-- The lines of a text are these, each ended by a line feed and with no other line break in it. -/
structure HasLines (text : String) (rest : List String) : Prop where
  lines : lines text.toList = rest.map fun line => line.toList ++ ['\n']
  oneLine : ∀ line ∈ rest, OneLine line.toList

/-- How many spaces a line starts with, unless it is blank. -/
def depth? (line : String) : Option Nat :=
  if line.toList.all Character.isBlank then none
  else some (line.toList.takeWhile (· == ' ')).length

theorem hasLines_page (h : ∀ line ∈ rest, OneLine line.toList) : HasLines (page rest) rest := by
  refine ⟨?_, h⟩
  induction rest with
  | nil => rfl
  | cons line rest ih =>
    obtain ⟨hline, hrest⟩ := List.forall_mem_cons.mp h
    have htext : (line ++ "\n" ++ page rest).toList =
        line.toList ++ '\n' :: (page rest).toList := by
      simp [String.toList_append]
    rw [page_cons, htext, lines_append_cons hline, ih hrest, List.map_cons]

section Depth

/-- A letter or a number can be seen. -/
theorem isBlank_of_isAlphanumeric (h : Character.isAlphanumeric c = true) :
    Character.isBlank c = false := by
  have hblank : (Character.blankRanges.flatMap fun r => List.range' r.1 (r.2 + 1 - r.1)).all
      (fun n => !Character.inRanges Character.alphanumericRanges n) = true := by decide +kernel
  refine Bool.eq_false_iff.mpr fun hb => ?_
  have hout := List.all_eq_true.mp hblank c.toNat (Character.mem_of_inRanges hb)
  rw [Character.isAlphanumeric] at h
  rw [h] at hout
  cases hout

theorem depth?_empty : depth? "" = none := rfl

theorem depth?_of_head (hc : Character.isBlank c = false) (h : line.toList.head? = some c) :
    depth? line = some 0 := by
  obtain ⟨cs, hcs⟩ := List.head?_eq_some_iff.mp h
  have hne : (c == ' ') = false := by
    refine Bool.eq_false_iff.mpr fun he => ?_
    rw [eq_of_beq he] at hc
    exact absurd hc (by decide)
  simp [depth?, hcs, hc, hne]

/-- Spaces in front of a line that is not blank add to its depth. -/
theorem depth?_append {margin : String} (hmargin : ∀ c ∈ margin.toList, c = ' ')
    (h : depth? line = some n) : depth? (margin ++ line) = some (margin.length + n) := by
  have hspaces : ∀ c ∈ margin.toList, (c == ' ') = true := fun c hc => beq_iff_eq.mpr (hmargin c hc)
  unfold depth? at h ⊢
  split at h
  · cases h
  · next hvisible =>
    rw [String.toList_append, List.all_append, Bool.not_eq_true _ |>.mp hvisible, Bool.and_false,
      List.takeWhile_append_of_pos hspaces, List.length_append, ← Option.some.inj h]
    rfl

end Depth

end Text

namespace Python

open Text

variable {methods : List Signature}

section Written

/-- The imports of a model: those of other models are seen by a type checker only. -/
def guardLines (names : List String) : List String :=
  if names = [] then []
  else "" :: "if TYPE_CHECKING:" :: names.map fun name => margin ++ importLine name

/-- The lines of the fields of a model. -/
def fieldLines (fields : List ModelField) : List String :=
  if fields = [] then [margin ++ "pass"]
  else
    (if fields.any needsAlias then
      [margin ++ "model_config = ConfigDict(populate_by_name=True)", ""] else []) ++
        fields.map fun f => margin ++ field f

def modelLines (name : String) (fields : List ModelField) (references : List String) :
    List String :=
  modelPreamble ++ guardLines (references.filter (· ≠ name)) ++
    ["", "", "class " ++ identifier name ++ "(BaseModel):"] ++ fieldLines fields

/-- The two lines of a method, of which the second has a margin of its own besides. -/
def methodPair (s : Signature) : List String :=
  [margin ++ methodHead s, margin ++ methodBody s]

/-- The lines of the methods of a client, with an empty one between two methods. -/
def methodLines (methods : List Signature) : List String :=
  if methods = [] then [margin ++ "pass"] else [""].intercalate (methods.map methodPair)

def clientLines (name : String) (methods : List Signature) (references : List String) :
    List String :=
  clientPreamble ++ importRows references ++ ["", "", "class " ++ identifier name ++ ":"] ++
    methodLines methods

end Written

section Shapes

/-- The depths of the imports of a model. -/
def guardShape (imports : Nat) : List (Option Nat) :=
  if imports = 0 then [] else none :: some 0 :: List.replicate imports (some 4)

def modelShape (imports fields : Nat) (aliased : Bool) : List (Option Nat) :=
  [none, some 0, none, some 0] ++ guardShape imports ++ [none, none, some 0] ++
    if fields = 0 then [some 4]
    else (if aliased then [some 4, none] else []) ++ List.replicate fields (some 4)

/-- The depths of the imports of a client. -/
def importShape (imports : Nat) : List (Option Nat) :=
  if imports = 0 then [] else none :: List.replicate imports (some 0)

def clientShape (imports methods : Nat) : List (Option Nat) :=
  [none, some 0] ++ importShape imports ++ [none, none, some 0] ++
    if methods = 0 then [some 4]
    else [none].intercalate (List.replicate methods [some 4, some 8])

end Shapes

/-- Below the header of a content stand these lines, and they have these depths. -/
structure LaidOut (namespaceName content : String) (rest : List String)
    (shape : List (Option Nat)) : Prop where
  below : ∃ text, content = header namespaceName ++ text ∧ HasLines text rest
  depths : rest.map depth? = shape

section Rows

theorem indentRow_modelConfig :
    indentRow margin "model_config = ConfigDict(populate_by_name=True)" =
      margin ++ "model_config = ConfigDict(populate_by_name=True)" :=
  indentRow_eq (c := 'm') (by decide) (by decide)

theorem indentRow_methodBody (s : Signature) :
    indentRow margin (methodBody s) = margin ++ methodBody s := by
  have hvisible : 'r' ∈ (methodBody s).toList := by
    unfold methodBody
    simp
  exact indentRow_eq hvisible (by decide)

theorem guardRows_eq_guardLines (names : List String) :
    guardRows (names.map importLine) = guardLines names := by
  rw [guardRows_eq, guardLines]
  simp only [indentRow_importLine]

theorem memberRows_fieldRows (fields : List ModelField) :
    memberRows (fieldRows fields) = fieldLines fields := by
  match fields with
  | [] => rfl
  | f :: rest =>
    have hne : fieldRows (f :: rest) ≠ [] := by
      unfold fieldRows
      split <;> simp
    have hfields : ((f :: rest).map field).map (indentRow margin) =
        (f :: rest).map fun f => margin ++ field f := by
      simp only [List.map_map, Function.comp_def, indentRow_field]
    rw [memberRows, if_neg hne, fieldLines, if_neg (List.cons_ne_nil f rest), fieldRows]
    split
    · rw [List.map_cons, List.map_cons, hfields, indentRow_modelConfig, indentRow_empty]
      rfl
    · rw [hfields, List.nil_append]

theorem map_indentRow_methodRows (hne : methods ≠ []) :
    (methodRows methods).map (indentRow margin) = [""].intercalate (methods.map methodPair) := by
  fun_induction methodRows methods with
  | case1 => exact absurd rfl hne
  | case2 s =>
    simp only [List.map_cons, List.map_nil, indentRow_methodHead, indentRow_methodBody,
      List.intercalate_singleton, methodPair]
  | case3 s rest hrest ih =>
    obtain ⟨next, others, rfl⟩ := List.exists_cons_of_ne_nil (l := rest) hrest
    simp only [List.map_cons, List.intercalate_cons_cons, indentRow_methodHead,
      indentRow_methodBody, indentRow_empty] at ih ⊢
    rw [ih (List.cons_ne_nil _ _)]
    rfl

theorem memberRows_methodRows (methods : List Signature) :
    memberRows (methodRows methods) = methodLines methods := by
  unfold memberRows methodLines
  by_cases hne : methods = []
  · rw [hne]
    rfl
  · have hrows : methodRows methods ≠ [] := by
      unfold methodRows
      split
      · contradiction
      · simp
      · simp
    rw [if_neg hrows, if_neg hne, map_indentRow_methodRows hne]

theorem modelRows_eq_modelLines (name : String) (fields : List ModelField)
    (references : List String) :
    modelRows name fields references = modelLines name fields references := by
  rw [modelRows, guardRows_eq_guardLines, memberRows_fieldRows, modelLines]

theorem clientRows_eq_clientLines (name : String) (methods : List Signature)
    (references : List String) :
    clientRows name methods references = clientLines name methods references := by
  rw [clientRows, memberRows_methodRows, clientLines]

end Rows

section Depths

theorem depth?_margin {line : String} {n : Nat} (h : depth? line = some n) :
    depth? (margin ++ line) = some (4 + n) :=
  depth?_append (by simp [margin]) h

theorem depth?_importLine (name : String) : depth? (importLine name) = some 0 := by
  refine depth?_of_head (c := 'f') (by decide) ?_
  simp only [importLine, String.toList_append, List.append_assoc]
  rfl

theorem depth?_field (f : ModelField) : depth? (field f) = some 0 := by
  obtain ⟨c, cs, hcs, hc⟩ := Naming.Snake.exists_clean_eq_cons f.name
  have hidentifier : (identifier f.name).toList = c :: cs := hcs
  refine depth?_of_head (isBlank_of_isAlphanumeric hc) ?_
  unfold field
  split <;> simp [String.toList_append, hidentifier]

theorem depth?_methodHead (s : Signature) : depth? (methodHead s) = some 0 := by
  refine depth?_of_head (c := 'a') (by decide) ?_
  unfold methodHead
  simp only [String.toList_append, List.append_assoc]
  rfl

theorem depth?_methodBody (s : Signature) : depth? (methodBody s) = some 4 := by
  have hbody : methodBody s =
      margin ++ ("raise NotImplementedError(" ++ literal s.label ++ ")") := by
    have hcut : "    raise NotImplementedError(" = margin ++ "raise NotImplementedError(" := by
      simp [margin]
    unfold methodBody
    rw [hcut, String.append_assoc, String.append_assoc, String.append_assoc]
  rw [hbody]
  refine depth?_margin (depth?_of_head (c := 'r') (by decide) ?_)
  simp only [String.toList_append, List.append_assoc]
  rfl

theorem depth?_classRow (name tail : String) :
    depth? ("class " ++ identifier name ++ tail) = some 0 := by
  refine depth?_of_head (c := 'c') (by decide) ?_
  simp only [String.toList_append, List.append_assoc]
  rfl

theorem depths_guardLines (names : List String) :
    (guardLines names).map depth? = guardShape names.length := by
  have hlines : (names.map fun name => margin ++ importLine name).map depth? =
      List.replicate names.length (some 4) := by
    rw [List.map_map, List.map_eq_replicate_iff]
    intro name _
    exact (Function.comp_apply ..).trans (depth?_margin (depth?_importLine name))
  simp only [guardLines, guardShape, List.length_eq_zero_iff]
  split
  · rfl
  · rw [List.map_cons, List.map_cons, hlines]
    rfl

theorem depths_fieldLines (fields : List ModelField) :
    (fieldLines fields).map depth? =
      if fields.length = 0 then [some 4]
      else (if fields.any needsAlias then [some 4, none] else []) ++
        List.replicate fields.length (some 4) := by
  have hlines : (fields.map fun f => margin ++ field f).map depth? =
      List.replicate fields.length (some 4) := by
    rw [List.map_map, List.map_eq_replicate_iff]
    intro f _
    exact (Function.comp_apply ..).trans (depth?_margin (depth?_field f))
  have hconfig : depth? (margin ++ "model_config = ConfigDict(populate_by_name=True)") = some 4 :=
    depth?_margin (depth?_of_head (c := 'm') (by decide) (by decide))
  simp only [fieldLines, List.length_eq_zero_iff]
  split
  · rfl
  · rw [List.map_append, hlines]
    split
    · rw [List.map_cons, List.map_cons, hconfig, depth?_empty, List.map_nil]
    · rfl

theorem depths_importRows (references : List String) :
    (importRows references).map depth? = importShape references.length := by
  have hlines : (references.map importLine).map depth? =
      List.replicate references.length (some 0) := by
    rw [List.map_map, List.map_eq_replicate_iff]
    intro name _
    exact (Function.comp_apply ..).trans (depth?_importLine name)
  simp only [importRows, importShape, List.length_eq_zero_iff]
  split
  · rfl
  · rw [List.map_cons, hlines]
    rfl

theorem map_intercalate {α β : Type} (g : α → β) (sep : List α) (blocks : List (List α)) :
    (sep.intercalate blocks).map g = (sep.map g).intercalate (blocks.map (List.map g)) := by
  match blocks with
  | [] => rfl
  | [block] => simp
  | block :: next :: rest =>
    have ih := map_intercalate g sep (next :: rest)
    simp only [List.map_cons, List.intercalate_cons_cons, List.map_append] at ih ⊢
    rw [ih]

theorem depths_methodLines (methods : List Signature) :
    (methodLines methods).map depth? =
      if methods.length = 0 then [some 4]
      else [none].intercalate (List.replicate methods.length [some 4, some 8]) := by
  have hpairs : (methods.map methodPair).map (List.map depth?) =
      List.replicate methods.length [some 4, some 8] := by
    rw [List.map_map, List.map_eq_replicate_iff]
    intro s _
    simp only [Function.comp_apply, methodPair, List.map_cons, List.map_nil,
      depth?_margin (depth?_methodHead s), depth?_margin (depth?_methodBody s)]
  simp only [methodLines, List.length_eq_zero_iff]
  split
  · rfl
  · rw [map_intercalate, hpairs]
    rfl

theorem depths_modelLines (name : String) (fields : List ModelField) (references : List String) :
    (modelLines name fields references).map depth? =
      modelShape (references.filter (· ≠ name)).length fields.length (fields.any needsAlias) := by
  have hpreamble : modelPreamble.map depth? = [none, some 0, none, some 0] := by decide
  simp only [modelLines, List.map_append, List.map_cons, List.map_nil, hpreamble, depth?_empty,
    depths_guardLines, depth?_classRow, depths_fieldLines, modelShape]

theorem depths_clientLines (name : String) (methods : List Signature) (references : List String) :
    (clientLines name methods references).map depth? =
      clientShape references.length methods.length := by
  have hpreamble : clientPreamble.map depth? = [none, some 0] := by decide
  simp only [clientLines, List.map_append, List.map_cons, List.map_nil, hpreamble, depth?_empty,
    depths_importRows, depth?_classRow, depths_methodLines, clientShape]

end Depths

/-- The lines of a model and of a client are of a fixed kind and depth, and nothing but the counts
of references, fields and methods decides how many there are. -/
theorem lines_fixed (namespaceName name : String) (references : List String) :
    (∀ fields, LaidOut namespaceName (model namespaceName name fields references)
      (modelLines name fields references)
      (modelShape (references.filter (· ≠ name)).length fields.length (fields.any needsAlias))) ∧
    ∀ methods, LaidOut namespaceName (client namespaceName name methods references)
      (clientLines name methods references) (clientShape references.length methods.length) := by
  constructor
  · intro fields
    refine ⟨⟨_, model_eq_page namespaceName name fields references, ?_⟩,
      depths_modelLines name fields references⟩
    rw [← modelRows_eq_modelLines]
    exact hasLines_page (oneLine_modelRows name fields references)
  · intro methods
    refine ⟨⟨_, client_eq_page namespaceName name methods references, ?_⟩,
      depths_clientLines name methods references⟩
    rw [← clientRows_eq_clientLines]
    exact hasLines_page (oneLine_clientRows name methods references)

end Python

end ApiStubs
