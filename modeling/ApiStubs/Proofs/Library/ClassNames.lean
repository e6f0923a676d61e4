import ApiStubs.Proofs.Library.References
import ApiStubs.Proofs.Package.Reading

/-! # Names of classes

The class of a model is defined under the identifier of its name. A reference to the model is
spelled so in Python, whatever the name. In C# it is the name itself, which is the identifier if and
only if the name is plain.
-/

namespace ApiStubs

open Descriptor Naming Text

variable {language : Language} {n : String}

namespace CSharp

/-- What the file of a model starts with. -/
def header (namespaceName : String) : String :=
  "using System;\nusing System.Collections.Generic;\nusing System.Text.Json.Serialization;\n" ++
    "\nnamespace " ++ namespaceName ++ "\n\x7b\n"

def bodyRows (namespaceName content : String) : List String :=
  match dropStart? (header namespaceName).toList content.toList with
  | some rest => rows (String.ofList rest)
  | none => []

/-- The class whose definition starts in a row. -/
def readClass? (row : String) : Option String :=
  (dropStart? "    public class ".toList row.toList).map String.ofList

end CSharp

namespace Language

/-- A name with the quotation marks that a language puts around it on request. -/
def quoted (language : Language) (quoteNames : Bool) (text : String) : String :=
  match language with
  | .csharp => text
  | .python => if quoteNames then "\"" ++ text ++ "\"" else text

/-- The class that the file of a model defines first. -/
def class? (language : Language) (namespaceName content : String) : Option String :=
  match language with
  | .csharp => (CSharp.bodyRows namespaceName content).findSome? CSharp.readClass?
  | .python => (Python.bodyRows namespaceName content).findSome? Python.readClass?

/-- A reference to a model is spelled as the class that its file defines, at any depth of arrays and
apart from quotation marks. -/
def ClassSpelled (language : Language) (n : String) : Prop :=
  ∀ namespaceName m, m.name = n →
    ∃ c, language.class? namespaceName (language.model namespaceName m) = some c ∧
      ∀ quoteNames k, language.type quoteNames (inArrays k (.named n)) =
        language.inLists k (language.quoted quoteNames c)

end Language

namespace Library

/-- The types that are written into the files of a library. -/
def writtenTypes (language : Language) (d : Document) : List Descriptor :=
  (models language d).flatMap (fun m => m.fields.map (·.type)) ++
    (methods language d).flatMap (·.types)

/-- Every reference in a library is spelled as the class that the file of its model defines. -/
def ReferencesSpelled (plan : Plan) (d : Document) : Prop :=
  ∀ t ∈ writtenTypes plan.language d, ∀ n ∈ t.names,
    ∃ f ∈ (generate plan d).files, f.kind = .model ∧ f.name = plan.language.naming.unitName n ∧
      ∃ c, plan.language.class? plan.namespaceName f.content = some c ∧
        ∃ k, t = inArrays k (.named n) ∧ ∀ quoteNames, plan.language.type quoteNames t =
          plan.language.inLists k (plan.language.quoted quoteNames c)

end Library

namespace CSharp

theorem oneLine_identifier (name : String) : OneLine (identifier name).toList := by
  have hclass : ∀ c ∈ (identifier name).toList, (c == '@' || Character.isWord c) = true := by
    intro c hc
    simpa using Marked.mem_identifier hc
  exact oneLine_of_forall hclass (by decide +kernel)

theorem model_eq (namespaceName name : String) (fields : List ModelField) :
    ∃ text, model namespaceName name fields = header namespaceName ++
      ("    public class " ++ identifier name ++ "\n" ++ text) := by
  have hopen : "\n\x7b\n    public class " = "\n\x7b\n" ++ "    public class " := by simp
  have hclose : "\n    \x7b\n" = "\n" ++ "    \x7b\n" := by simp
  unfold model classFile header
  simp only [hopen, hclose, String.append_assoc]
  exact ⟨_, rfl⟩

theorem class_model (namespaceName name : String) (fields : List ModelField) :
    (bodyRows namespaceName (model namespaceName name fields)).findSome? readClass? =
      some (identifier name) := by
  obtain ⟨text, htext⟩ := model_eq namespaceName name fields
  have hrow : OneLine ("    public class " ++ identifier name).toList := by
    rw [String.toList_append, oneLine_append]
    exact ⟨by decide, oneLine_identifier name⟩
  have hread : readClass? ("    public class " ++ identifier name) = some (identifier name) := by
    rw [readClass?, String.toList_append, dropStart?_append, Option.map_some, String.ofList_toList]
  rw [htext, bodyRows, String.toList_append, dropStart?_append]
  simp only [String.ofList_toList, rows_append hrow, List.findSome?_cons, hread]

end CSharp

namespace Language

theorem class?_model (language : Language) (namespaceName : String) (m : Model) :
    language.class? namespaceName (language.model namespaceName m) =
      some (language.naming.identifier m.name) := by
  cases language with
  | csharp => exact CSharp.class_model namespaceName m.name m.fields
  | python =>
    have hrows : Python.bodyRows namespaceName (Python.model namespaceName m.name m.fields
        m.references) = _ := Python.bodyRows_model namespaceName m.name m.fields m.references
    have hclass := Python.classes_modelRows m.name m.fields m.references
    rw [class?, model, hrows, ← List.head?_filterMap, hclass]
    rfl

theorem type_named_eq_iff : (∀ quoteNames, language.type quoteNames (.named n) =
    language.quoted quoteNames (language.naming.identifier n)) ↔
      (language = .csharp → Marked.IsPlain n) := by
  cases language with
  | csharp =>
    rw [← Marked.identifier_eq_self_iff]
    constructor
    · intro h _; exact (h false).symm
    · intro h _; exact (h rfl).symm
  | python =>
    constructor
    · intro _ h; cases h
    · intro _ quoteNames; rfl

theorem inLists_inj {k : ℕ} {a b : String} :
    language.inLists k a = language.inLists k b ↔ a = b := by
  induction k with
  | zero => rfl
  | succ k ih =>
    rw [← ih]
    cases language <;> simp [inLists, String.append_left_inj, String.append_right_inj]

/-- At any depth of arrays a name is spelled as its identifier if it is so by itself. -/
theorem type_inArrays_eq_iff {k : ℕ} :
    (∀ quoteNames, language.type quoteNames (inArrays k (.named n)) =
      language.inLists k (language.quoted quoteNames (language.naming.identifier n))) ↔
        (language = .csharp → Marked.IsPlain n) := by
  rw [← type_named_eq_iff]
  simp only [type_inArrays, inLists_inj]

theorem classSpelled_iff (language : Language) (n : String) :
    ClassSpelled language n ↔ (language = .csharp → Marked.IsPlain n) := by
  constructor
  · intro h
    obtain ⟨c, hc, hspelled⟩ := h "" ⟨n, []⟩ rfl
    rw [class?_model, Option.some.injEq] at hc
    subst hc
    exact type_inArrays_eq_iff.mp fun quoteNames => hspelled quoteNames 0
  · rintro h namespaceName m rfl
    refine ⟨_, class?_model language namespaceName m, fun quoteNames k => ?_⟩
    exact type_inArrays_eq_iff.mpr h quoteNames

end Language

namespace Library

open ApiStubs.Language

theorem exists_model_of_mem_writtenTypes {d : Document} {t : Descriptor}
    (ht : t ∈ writtenTypes language d) (hn : n ∈ t.names) :
    ∃ m ∈ models language d, m.name = n := by
  simp only [writtenTypes, List.mem_append, List.mem_flatMap, List.mem_map] at ht
  rcases ht with ⟨m, hm, x, hx, rfl⟩ | ⟨s, hs, ht⟩
  · exact exists_model_of_field hm hx hn
  · exact exists_model_of_type hs ht hn

/-- In C# the file of a model has the name of the model and so a class of its own. -/
theorem name_of_modelFile {plan : Plan} {d : Document} (hl : plan.language = .csharp)
    {f : SourceFile} (hf : f ∈ (generate plan d).files) (hkind : f.kind = .model) :
    ∃ m ∈ models plan.language d, f = modelFile plan.language plan.namespaceName m ∧
      f.name = m.name := by
  simp only [generate, hl, Language.supportFiles, List.mem_append, List.mem_map,
    List.mem_singleton] at hf
  rcases hf with ⟨m, hm, rfl⟩ | rfl
  · exact ⟨m, hl ▸ hm, by rw [hl], rfl⟩
  · cases hkind

theorem referencesSpelled_iff (plan : Plan) (d : Document) :
    ReferencesSpelled plan d ↔ (plan.language = .csharp →
      ∀ t ∈ writtenTypes plan.language d, ∀ n ∈ t.names, Marked.IsPlain n) := by
  constructor
  · intro h hl t ht n hn
    obtain ⟨f, hf, hkind, hname, c, hc, k, rfl, hspelled⟩ := h t ht n hn
    obtain ⟨m, hm, rfl, hfm⟩ := name_of_modelFile hl hf hkind
    have hn' : m.name = n := by rw [← hfm, hname, hl]; rfl
    have hclass : some (plan.language.naming.identifier m.name) = some c :=
      (class?_model plan.language plan.namespaceName m).symm.trans hc
    obtain rfl := Option.some.inj hclass
    exact type_inArrays_eq_iff.mp (hn' ▸ hspelled) hl
  · intro h t ht n hn
    obtain ⟨m, hm, rfl⟩ := exists_model_of_mem_writtenTypes ht hn
    obtain ⟨k, rfl⟩ := mem_names_iff.mp hn
    refine ⟨modelFile plan.language plan.namespaceName m,
      List.mem_append_left _ (List.mem_map_of_mem hm), rfl, rfl, _,
      class?_model plan.language plan.namespaceName m, k, rfl, ?_⟩
    exact type_inArrays_eq_iff.mpr fun hl => h hl _ ht m.name hn

theorem spelled_iff (plan : Plan) (d : Document) :
    (∀ n, ClassSpelled plan.language n ↔ (plan.language = .csharp → Marked.IsPlain n)) ∧
      (ReferencesSpelled plan d ↔ (plan.language = .csharp →
        ∀ t ∈ writtenTypes plan.language d, ∀ n ∈ t.names, Marked.IsPlain n)) :=
  ⟨classSpelled_iff plan.language, referencesSpelled_iff plan d⟩

/-- A model that refers to one whose name has a character that no identifier has. -/
def hyphenated : Document where
  schemas := Table.ofList
    [("a-b", { kind := .object }),
     ("Holder", { kind := .object
                  properties := [("x", { kind := .reference, refName := some "a-b" })] })]

theorem not_classSpelled_hyphenated :
    ¬ ClassSpelled .csharp "a-b" ∧ .named "a-b" ∈ writtenTypes .csharp hyphenated ∧
      ∀ f ∈ (generate { language := .csharp } hyphenated).files, f.kind = .model →
        Language.csharp.class? "Generated.Client" f.content ≠
          some (Language.csharp.type false (.named "a-b")) := by
  refine ⟨?_, by decide +kernel, ?_⟩
  · rw [classSpelled_iff]
    intro h
    exact absurd ((h rfl).1 '-' (by decide)) (by decide)
  · intro f hf hkind
    obtain ⟨m, hm, rfl, -⟩ := name_of_modelFile rfl hf hkind
    have hclass := class?_model .csharp "Generated.Client" m
    have hother : ∀ m ∈ models .csharp hyphenated, CSharp.identifier m.name ≠ "a-b" := by
      decide +kernel
    exact fun he => hother m hm (Option.some.inj (hclass.symm.trans he))

end Library

end ApiStubs
