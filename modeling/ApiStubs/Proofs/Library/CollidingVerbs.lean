import ApiStubs.Proofs.Library.Collisions

/-! # Verbs of colliding methods

No verb in canonical form is a prefix of another one, and an identifier keeps the verb at the start
of a method name. So the identifiers of methods for different verbs differ, whatever their routes
are, and the operations that share a method name have one verb.
-/

namespace ApiStubs

open Naming MethodName

variable {language : Language} {plan : Plan} {d : Document} {v w : Verb} {route path : String}

/-- The verbs in canonical form are a code without prefixes. -/
theorem Verb.eq_of_canonical_prefix (h : v.canonical.toList <+: w.canonical.toList) : v = w := by
  have hcode : ∀ v ∈ Verb.all, ∀ w ∈ Verb.all,
      v.canonical.toList.isPrefixOf w.canonical.toList = true → v = w := by decide
  have hall : ∀ v : Verb, v ∈ Verb.all := fun v => by cases v <;> decide
  exact hcode v (hall v) w (hall w) (List.isPrefixOf_iff_prefix.mpr h)

theorem Verb.eq_of_prefixes {cs : List Char} (hv : v.canonical.toList <+: cs)
    (hw : w.canonical.toList <+: cs) : v = w := by
  rcases List.prefix_or_prefix_of_prefix hv hw with h | h
  · exact Verb.eq_of_canonical_prefix h
  · exact (Verb.eq_of_canonical_prefix h).symm

/-- What a language makes of a method name starts with its verb. -/
theorem Language.SameSpelling.verb_eq
    (h : language.SameSpelling (synthesize v route) (synthesize w path)) : v = w := by
  cases language with
  | csharp =>
    refine Verb.eq_of_prefixes (canonical_prefix_map_plain v route) ?_
    exact h ▸ canonical_prefix_map_plain w path
  | python =>
    refine Verb.eq_of_prefixes (canonical_prefix_joined_words v route) ?_
    exact congrArg joined h ▸ canonical_prefix_joined_words w path

namespace Library

/-- The labels of operations of a document that all have one verb. -/
def HaveOneVerb (d : Document) (labels : List String) : Prop :=
  ∃ v, ∀ label ∈ labels, ∃ p ∈ d.operations, p.2.verb = v ∧ label = operationLabel v p.1

theorem exists_of_mem_labelsOf {name label : String}
    (h : label ∈ labelsOf name (builtSignatures language d)) :
    ∃ p ∈ d.operations, name = synthesize p.2.verb p.1 ∧ label = operationLabel p.2.verb p.1 := by
  obtain ⟨s, hs, rfl⟩ := List.mem_map.mp h
  obtain ⟨hbuilt, hname⟩ := List.mem_filter.mp hs
  obtain ⟨p, hp, hsignature⟩ := mem_builtSignatures.mp hbuilt
  refine ⟨p, hp, ?_, buildSignature_label hsignature⟩
  rw [← (buildSignature_names hsignature).1, of_decide_eq_true hname]

theorem haveOneVerb_labelsOf (language : Language) (d : Document) (name : String) :
    HaveOneVerb d (labelsOf name (builtSignatures language d)) := by
  by_cases hnil : labelsOf name (builtSignatures language d) = []
  · exact ⟨.get, by simp [hnil]⟩
  · obtain ⟨first, hfirst⟩ := List.exists_mem_of_ne_nil _ hnil
    obtain ⟨p, -, hp, -⟩ := exists_of_mem_labelsOf hfirst
    refine ⟨p.2.verb, fun label hlabel => ?_⟩
    obtain ⟨q, hq, hname, rfl⟩ := exists_of_mem_labelsOf hlabel
    have hsame : language.SameSpelling (synthesize q.2.verb q.1) (synthesize p.2.verb p.1) :=
      (identifier_eq_iff language _ _ _ _).mp (by rw [← hname, hp])
    exact ⟨q, hq, hsame.verb_eq, by rw [hsame.verb_eq]⟩

/-- The identifier of a method tells its verb, and every collision of names is one of operations
with one verb. -/
theorem collisions_haveOneVerb (plan : Plan) (d : Document) :
    (∀ v w route path, v ≠ w → plan.language.naming.identifier (synthesize v route) ≠
      plan.language.naming.identifier (synthesize w path)) ∧
    ∀ i ∈ (generate plan d).issues, ∀ name labels,
      i.problem = .methodNameCollision name labels → HaveOneVerb d labels := by
  constructor
  · intro v w route path hne h
    exact hne ((identifier_eq_iff plan.language v w route path).mp h).verb_eq
  · intro i hi name labels hp
    rw [labels_eq_of_methodNameCollision hi hp]
    exact haveOneVerb_labelsOf plan.language d name

/-- An operation that answers nothing. -/
def silentOperation (v : Verb) : Verb × Operation :=
  (v, { verb := v, responses := Table.ofList [] })

/-- Two routes with the same segments, each with two verbs. -/
def twoSlashes : Document where
  schemas := Table.ofList []
  routes :=
    [{ path := "/a/b", operations := Table.ofList ([.put, .post].map silentOperation) },
     { path := "/a//b", operations := Table.ofList ([.put, .post].map silentOperation) }]

/-- The identifiers of a put and a post are different, and a name that two operations share belongs
to posts alone. -/
theorem collisions_haveOneVerb_twoSlashes :
    Verb.put ≠ .post ∧
      Naming.snake.identifier (synthesize .put "t") ≠
        Naming.snake.identifier (synthesize .post "") ∧
      (⟨"PostAB", .methodNameCollision "PostAB" ["POST /a/b", "POST /a//b"]⟩ : Issue) ∈
        (generate { language := .python } twoSlashes).issues ∧
      HaveOneVerb twoSlashes ["POST /a/b", "POST /a//b"] := by
  have hissue : (⟨"PostAB", .methodNameCollision "PostAB" ["POST /a/b", "POST /a//b"]⟩ : Issue) ∈
      (generate { language := .python } twoSlashes).issues := by decide +kernel
  have h := collisions_haveOneVerb { language := .python } twoSlashes
  exact ⟨by decide, h.1 .put .post "t" "" (by decide), hissue, h.2 _ hissue _ _ rfl⟩

end Library

end ApiStubs
