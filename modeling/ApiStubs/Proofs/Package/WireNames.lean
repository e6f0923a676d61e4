import ApiStubs.Proofs.Package.FieldRows
import ApiStubs.Proofs.Text.Literal
import ApiStubs.Target.Language

/-! # Names of fields in a Python model

Cleaning a name loses much of it, but the text of a model does not: a field whose identifier is not
its name has the name as a literal in its row. So the names are read back from the text in their
order, and models of fields with other names have other texts.
-/

namespace ApiStubs.Python

open Text

variable {fields others : List ModelField}

/-- The name that stands in the row of a field: in the literal of its alias if it has one, and in
front of its type otherwise. -/
def readField? (row : String) : Option String := do
  let text ← dropStart? margin.toList row.toList
  let typed ← dropStart? ": ".toList (text.dropWhile Character.isWord)
  let value ← dropStart? " = ".toList (typed.dropWhile (· != ' '))
  match dropStart? aliasStart value with
  | some text => (readLiteral? text).map Prod.fst
  | none => pure (String.ofList (text.takeWhile Character.isWord))

/-- The names of fields that stand in the text of a model. -/
def wireNames (namespaceName content : String) : List String :=
  (bodyRows namespaceName content).filterMap readField?

theorem readsFields_readField? : ReadsFields readField? :=
  readsFields_bind _

/-- The row of a field keeps its name. -/
theorem readField?_field (f : ModelField) : readField? (margin ++ field f) = some f.name := by
  have hvalue : readField? (margin ++ field f) =
      match dropStart? aliasStart (fieldDefault f) with
      | some text => (readLiteral? text).map Prod.fst
      | none => some (identifier f.name) := by
    rw [readField?, String.toList_append, dropStart?_append]
    simp only [Option.bind_eq_bind, Option.bind_some, dropStart?_field, dropStart?_fieldType,
      takeWhile_field, String.ofList_toList, Option.pure_def]
  rw [hvalue, fieldDefault]
  by_cases hcleaned : needsAlias f = true
  · rw [if_pos hcleaned, dropStart?_append]
    exact congrArg (Option.map Prod.fst) (readLiteral?_literal f.name ")".toList)
  · have hname : identifier f.name = f.name := by simpa [needsAlias] using hcleaned
    rw [if_neg hcleaned, hname]
    rfl

example : field ⟨"created-at", .any⟩ =
    "created_at: Any = Field(default=None, alias=\"created-at\")" := by
  decide +kernel

theorem wireNames_model (namespaceName name : String) (fields : List ModelField)
    (references : List String) :
    wireNames namespaceName (model namespaceName name fields references) =
      fields.map (·.name) := by
  rw [wireNames, readsFields_readField?.filterMap_bodyRows]
  simp only [readField?_field, List.filterMap_eq_map']

/-- The names of the fields are read back from the text of a model in their order. So the texts of
two models with other names, or with the same names in another order, are not the same. -/
theorem model_keeps_names (namespaceName name : String) (fields others : List ModelField) :
    wireNames namespaceName (Language.python.model namespaceName ⟨name, fields⟩) =
      fields.map (·.name) ∧
    (fields.map (·.name) ≠ others.map (·.name) →
      Language.python.model namespaceName ⟨name, fields⟩ ≠
        Language.python.model namespaceName ⟨name, others⟩) := by
  have hread : ∀ fields, wireNames namespaceName
      (Language.python.model namespaceName ⟨name, fields⟩) = fields.map (·.name) :=
    fun fields => wireNames_model namespaceName name fields _
  refine ⟨hread fields, fun hne htexts => hne ?_⟩
  rw [← hread fields, htexts, hread others]

/-- Two names with one identifier. -/
theorem model_keeps_names_hyphenated :
    ["created-at"] ≠ ["created_at"] ∧
      Language.python.model "Ns" ⟨"Event", [⟨"created-at", .any⟩]⟩ ≠
        Language.python.model "Ns" ⟨"Event", [⟨"created_at", .any⟩]⟩ :=
  ⟨by decide, (model_keeps_names "Ns" "Event" [⟨"created-at", .any⟩] [⟨"created_at", .any⟩]).2
    (by decide)⟩

end ApiStubs.Python
