import ApiStubs.Proofs.Library.Distinct
import ApiStubs.Proofs.Naming.MethodName

/-! # Collisions of method names

Methods are compared by the names that are synthesized for them, but written under identifiers.
Names that differ and have one identifier are neither reported nor left out, so the names of a
client are distinct if and only if no two synthesized names are spelled the same in its language.
-/

namespace ApiStubs

theorem Verb.upper_inj {v w : Verb} : v.upper = w.upper ↔ v = w := by
  cases v <;> cases w <;> decide

theorem Verb.space_not_mem_upper (v : Verb) : ' ' ∉ v.upper.toList := by
  cases v <;> decide

theorem takeWhile_operationLabel (v : Verb) (path : String) :
    (operationLabel v path).toList.takeWhile (· != ' ') = v.upper.toList := by
  have hv : ∀ c ∈ v.upper.toList, (c != ' ') = true := fun c hc => by
    simpa using fun he : c = ' ' => v.space_not_mem_upper (he ▸ hc)
  simp [operationLabel, List.takeWhile_append_of_pos hv]

theorem operationLabel_inj {v w : Verb} {path route : String} :
    operationLabel v path = operationLabel w route ↔ v = w ∧ path = route := by
  constructor
  · intro h
    have hv : v.upper.toList = w.upper.toList := by
      rw [← takeWhile_operationLabel v path, h, takeWhile_operationLabel]
    obtain rfl := Verb.upper_inj.mp (String.toList_inj.mp hv)
    refine ⟨rfl, String.toList_inj.mp ?_⟩
    simpa [operationLabel] using congrArg String.toList h
  · rintro ⟨rfl, rfl⟩; rfl

namespace Library

variable {language : Language} {plan : Plan} {d : Document} {s t : Signature}

/-- The name of a method as it stands in a client. -/
def writtenName (language : Language) (s : Signature) : String :=
  language.naming.identifier s.name

/-- Two methods that are missing from the client, with one issue that lists them both. -/
structure LeftOutTogether (plan : Plan) (d : Document) (s t : Signature) : Prop where
  reported : ∃ i ∈ (generate plan d).issues, ∃ name labels,
    i.problem = .methodNameCollision name labels ∧ [s.label, t.label].Sublist labels
  left : s ∉ methods plan.language d
  right : t ∉ methods plan.language d

/-- No two methods of the client are written under one name, and any two that would be are left out
together. An operation without a signature has no name and an issue of its own. -/
structure NamesApart (plan : Plan) (d : Document) : Prop where
  distinct : ((methods plan.language d).map (writtenName plan.language)).Nodup
  collisions : (builtSignatures plan.language d).Pairwise fun s t =>
    writtenName plan.language s = writtenName plan.language t → LeftOutTogether plan d s t

/-- An issue is about the name of several methods. -/
def isCollision (x : Issue) : Bool :=
  match x.problem with
  | .methodNameCollision _ _ => true
  | _ => false

theorem name_eq_of_label_eq (hs : s ∈ builtSignatures language d)
    (ht : t ∈ builtSignatures language d) (h : s.label = t.label) : s.name = t.name := by
  obtain ⟨p, -, hp⟩ := mem_builtSignatures.mp hs
  obtain ⟨q, -, hq⟩ := mem_builtSignatures.mp ht
  rw [buildSignature_label hp, buildSignature_label hq] at h
  obtain ⟨hv, hr⟩ := operationLabel_inj.mp h
  rw [(buildSignature_names hp).1, (buildSignature_names hq).1, hv, hr]

theorem sameSpelling_iff (hs : s ∈ builtSignatures language d)
    (ht : t ∈ builtSignatures language d) :
    language.SameSpelling s.name t.name ↔ writtenName language s = writtenName language t := by
  obtain ⟨p, -, hp⟩ := mem_builtSignatures.mp hs
  obtain ⟨q, -, hq⟩ := mem_builtSignatures.mp ht
  rw [writtenName, writtenName, (buildSignature_names hp).1, (buildSignature_names hq).1]
  exact (MethodName.identifier_eq_iff language _ _ _ _).symm

theorem modelIssues_ne_methodNameCollision {i : Issue} (hi : i ∈ modelIssues language d)
    (name : String) (labels : List String) : i.problem ≠ .methodNameCollision name labels := by
  rw [modelIssues, List.mem_append] at hi
  rcases hi with hfailed | hdropped
  · rcases modelFailure_problem hfailed with ⟨_, h⟩ | ⟨_, h⟩ <;> simp [h]
  · obtain ⟨x, -, rfl⟩ := List.mem_map.mp hdropped
    simp [Dropped.issue]

theorem isCollision_iff {x : Issue} :
    isCollision x = true ↔ ∃ name labels, x.problem = .methodNameCollision name labels := by
  unfold isCollision
  split
  · next name labels h => exact iff_of_true rfl ⟨name, labels, h⟩
  · next h => exact iff_of_false (by simp) fun ⟨name, labels, he⟩ => h name labels he

/-- Issues about names come from the comparison of synthesized names only. -/
theorem filter_isCollision (plan : Plan) (d : Document) :
    (generate plan d).issues.filter isCollision =
      (sharedNames (builtSignatures plan.language d)).map
        (collisionIssue (builtSignatures plan.language d)) := by
  have hmodels : (modelIssues plan.language d).filter isCollision = [] :=
    List.filter_eq_nil_iff.mpr fun x hx hc => by
      obtain ⟨name, labels, hp⟩ := isCollision_iff.mp hc
      exact modelIssues_ne_methodNameCollision hx name labels hp
  have hfailed : (failures (methodAttempts plan.language d)).filter isCollision = [] :=
    List.filter_eq_nil_iff.mpr fun x hx hc => by
      obtain ⟨name, labels, hp⟩ := isCollision_iff.mp hc
      rcases methodFailure_problem hx with ⟨_, h⟩ | ⟨_, h⟩ <;> simp [h] at hp
  have hunresolved : (unresolvedIssues (models plan.language d)
      (distinctMethods (builtSignatures plan.language d))).filter isCollision = [] :=
    List.filter_eq_nil_iff.mpr fun x hx hc => by
      obtain ⟨s, -, hs⟩ := List.mem_filterMap.mp hx
      obtain ⟨missing, -, rfl⟩ := Option.map_eq_some_iff.mp hs
      cases hc
  have hshared : ∀ x ∈ (sharedNames (builtSignatures plan.language d)).map
      (collisionIssue (builtSignatures plan.language d)), isCollision x = true := by
    intro x hx
    obtain ⟨name, -, rfl⟩ := List.mem_map.mp hx
    rfl
  rw [generate, methodIssues, List.filter_append, List.filter_append, List.filter_append, hmodels,
    hfailed, hunresolved, List.filter_eq_self.mpr hshared, List.nil_append, List.nil_append,
    List.append_nil]

theorem labels_eq_of_methodNameCollision {i : Issue} {name : String} {labels : List String}
    (hi : i ∈ (generate plan d).issues) (hp : i.problem = .methodNameCollision name labels) :
    labels = labelsOf name (builtSignatures plan.language d) := by
  have hin := List.mem_filter.mpr ⟨hi, isCollision_iff.mpr ⟨name, labels, hp⟩⟩
  rw [filter_isCollision] at hin
  obtain ⟨shared, -, rfl⟩ := List.mem_map.mp hin
  simp only [collisionIssue, Problem.methodNameCollision.injEq] at hp
  exact hp.1 ▸ hp.2.symm

theorem name_eq_of_leftOutTogether (hs : s ∈ builtSignatures plan.language d)
    (ht : t ∈ builtSignatures plan.language d) (h : LeftOutTogether plan d s t) :
    s.name = t.name := by
  -- a label determines its verb and route, so the issue is about the names of both
  obtain ⟨i, hi, name, labels, hp, hsub⟩ := h.reported
  obtain rfl := labels_eq_of_methodNameCollision hi hp
  have hname : ∀ r ∈ builtSignatures plan.language d,
      r.label ∈ labelsOf name (builtSignatures plan.language d) → r.name = name := by
    intro r hr hl
    obtain ⟨o, ho, he⟩ := List.mem_map.mp hl
    obtain ⟨hbuilt, hon⟩ := List.mem_filter.mp ho
    exact (name_eq_of_label_eq hr hbuilt he.symm).trans (of_decide_eq_true hon)
  rw [hname s hs (hsub.subset (by simp)), hname t ht (hsub.subset (by simp))]

theorem leftOutTogether_of_name_eq
    (hsub : [s, t].Sublist (builtSignatures plan.language d)) (h : s.name = t.name) :
    LeftOutTogether plan d s t := by
  have hpair : [s, t].Sublist
      ((builtSignatures plan.language d).filter (·.name = s.name)) := by
    have hfilter := hsub.filter (·.name = s.name)
    rwa [List.filter_eq_self.mpr (by simp [h])] at hfilter
  have hshared : isShared (builtSignatures plan.language d) s.name = true :=
    decide_eq_true hpair.length_le
  have hout : ∀ r ∈ methods plan.language d, r.name ≠ s.name := by
    intro r hr he
    have hno := (mem_methods_iff.mp hr).2.1
    rw [he, hshared] at hno
    cases hno
  refine ⟨⟨collisionIssue (builtSignatures plan.language d) s.name, ?_, s.name,
    labelsOf s.name (builtSignatures plan.language d), rfl, hpair.map Signature.label⟩,
    fun hs => hout s hs rfl, fun ht => hout t ht h.symm⟩
  have hin : s.name ∈ sharedNames (builtSignatures plan.language d) := mem_sharedNames.mpr hshared
  simp only [generate, methodIssues, List.mem_append]
  exact .inr (.inl (.inr (List.mem_map_of_mem hin)))

/-- What is reported and left out says that names spelled the same are the same names. -/
theorem NamesApart.name_eq (h : NamesApart plan d) (hs : s ∈ builtSignatures plan.language d)
    (ht : t ∈ builtSignatures plan.language d)
    (he : writtenName plan.language s = writtenName plan.language t) : s.name = t.name := by
  have hpairs : (builtSignatures plan.language d).Pairwise fun s t =>
      writtenName plan.language s = writtenName plan.language t → s.name = t.name :=
    h.collisions.imp_of_mem fun hs ht hst he => name_eq_of_leftOutTogether hs ht (hst he)
  exact hpairs.forall_of_forall_of_flip (fun _ _ _ => rfl)
    (hpairs.imp fun hst he => (hst he.symm).symm) hs ht he

theorem namesApart_of_name_eq (h : ∀ s ∈ builtSignatures plan.language d,
    ∀ t ∈ builtSignatures plan.language d,
      writtenName plan.language s = writtenName plan.language t → s.name = t.name) :
    NamesApart plan d := by
  constructor
  · have hmem : ∀ s ∈ methods plan.language d, s ∈ builtSignatures plan.language d :=
      fun s hs => (mem_methods_iff.mp hs).1
    refine List.Nodup.map_on (fun s hs t ht he => ?_) (.of_map _ (nodup_methods_names _ d))
    exact List.inj_on_of_nodup_map (nodup_methods_names plan.language d) hs ht
      (h s (hmem s hs) t (hmem t ht) he)
  · refine List.pairwise_iff_forall_sublist.mpr fun {s t} hsub he => ?_
    exact leftOutTogether_of_name_eq hsub
      (h s (hsub.subset (by simp)) t (hsub.subset (by simp)) he)

theorem namesApart_iff (plan : Plan) (d : Document) :
    NamesApart plan d ↔ ∀ s ∈ builtSignatures plan.language d,
      ∀ t ∈ builtSignatures plan.language d,
        plan.language.SameSpelling s.name t.name → s.name = t.name := by
  constructor
  · intro h s hs t ht he
    exact h.name_eq hs ht ((sameSpelling_iff hs ht).mp he)
  · intro h
    exact namesApart_of_name_eq fun s hs t ht he =>
      h s hs t ht ((sameSpelling_iff hs ht).mpr he)

/-- Two routes, one with a dash where the other has an underscore. -/
def twoSpellings : Document where
  routes :=
    [{ path := "/a-b", operations := Table.ofList [(.get, { verb := .get })] },
     { path := "/a_b", operations := Table.ofList [(.get, { verb := .get })] }]

theorem not_namesApart_twoSpellings :
    ¬ NamesApart { language := .csharp } twoSpellings ∧
      ¬ NamesApart { language := .python } twoSpellings := by
  constructor
  · intro h; exact absurd h.distinct (by decide +kernel)
  · intro h; exact absurd h.distinct (by decide +kernel)

end Library

end ApiStubs
