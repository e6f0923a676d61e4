import ApiStubs.Proofs.Library.Collisions
import ApiStubs.Proofs.Library.SchemaChanges

/-! # Which methods are written

A method is written if and only if its operation is the only one to build its name, and all models
that it refers to are there. Every name that several operations build has one issue, at the position
of the first of them. Both lists are in the order of the document.
-/

namespace ApiStubs

section InOrder

variable {α β : Type} {R S : ℕ → α → Prop} {l l' : List α}

/-- A list of what stands at some positions, in their order. -/
def InOrder (R : ℕ → α → Prop) (l : List α) : Prop :=
  ∃ entries : List (α × ℕ), entries.Pairwise (fun e f => e.2 < f.2) ∧
    (∀ a i, (a, i) ∈ entries ↔ R i a) ∧ entries.map Prod.fst = l

theorem InOrder.congr (h : InOrder R l) (hRS : ∀ i a, R i a ↔ S i a) : InOrder S l := by
  obtain ⟨entries, hsorted, hmem, rfl⟩ := h
  exact ⟨entries, hsorted, fun a i => (hmem a i).trans (hRS i a), rfl⟩

theorem inOrder_getElem? (l : List α) : InOrder (fun i a => l[i]? = some a) l := by
  refine ⟨l.zipIdx, ?_, fun a i => List.mem_zipIdx_iff_getElem?, List.zipIdx_map_fst 0 l⟩
  apply List.pairwise_map.mp
  rw [List.zipIdx_map_snd]
  exact List.pairwise_lt_range'

theorem InOrder.filterMap (h : InOrder R l) (f : α → Option β) :
    InOrder (fun i b => ∃ a, R i a ∧ f a = some b) (l.filterMap f) := by
  obtain ⟨entries, hsorted, hmem, rfl⟩ := h
  refine ⟨entries.filterMap fun e => (f e.1).map (·, e.2), ?_, ?_, ?_⟩
  · refine hsorted.filterMap _ fun e e' hlt x hx y hy => ?_
    obtain ⟨b, -, rfl⟩ := Option.map_eq_some_iff.mp hx
    obtain ⟨c, -, rfl⟩ := Option.map_eq_some_iff.mp hy
    exact hlt
  · intro b i
    rw [List.mem_filterMap]
    constructor
    · rintro ⟨⟨a, j⟩, he, hf⟩
      obtain ⟨c, hc, heq⟩ := Option.map_eq_some_iff.mp hf
      obtain ⟨rfl, rfl⟩ := Prod.mk.inj heq
      exact ⟨a, (hmem a j).mp he, hc⟩
    · rintro ⟨a, ha, hf⟩
      exact ⟨(a, i), (hmem a i).mpr ha, by rw [hf, Option.map_some]⟩
  · rw [List.filterMap_map, List.map_filterMap]
    refine List.filterMap_congr fun e _ => ?_
    cases h : f e.1 <;> simp [h]

theorem InOrder.map (h : InOrder R l) (f : α → β) :
    InOrder (fun i b => ∃ a, R i a ∧ f a = b) (l.map f) := by
  rw [← List.filterMap_eq_map]
  exact (h.filterMap _).congr fun i b => by simp

theorem InOrder.filter (h : InOrder R l) (p : α → Bool) :
    InOrder (fun i a => R i a ∧ p a = true) (l.filter p) := by
  rw [← List.filterMap_eq_filter]
  exact (h.filterMap _).congr fun i a => by simp [Option.guard_eq_some_iff]

/-- What stands where determines the list. -/
theorem InOrder.unique (h : InOrder R l) (h' : InOrder R l') : l = l' := by
  obtain ⟨entries, hsorted, hmem, rfl⟩ := h
  obtain ⟨entries', hsorted', hmem', rfl⟩ := h'
  have hnodup : ∀ entries : List (α × ℕ), entries.Pairwise (fun e f => e.2 < f.2) →
      entries.Nodup :=
    fun entries hs => hs.imp fun hlt he => absurd (congrArg Prod.snd he) (Nat.ne_of_lt hlt)
  have hperm : entries.Perm entries' :=
    (List.perm_ext_iff_of_nodup (hnodup _ hsorted) (hnodup _ hsorted')).mpr
      fun e => (hmem e.1 e.2).trans (hmem' e.1 e.2).symm
  rw [hperm.eq_of_pairwise (fun e f _ _ hef hfe => absurd hef (Nat.lt_asymm hfe)) hsorted hsorted']

/-- A list is longer than one exactly if there are two positions. -/
theorem InOrder.one_lt_length_iff (h : InOrder R l) :
    1 < l.length ↔ ∃ i j a b, i < j ∧ R i a ∧ R j b := by
  obtain ⟨entries, hsorted, hmem, rfl⟩ := h
  simp only [← hmem, List.length_map]
  constructor
  · intro hlength
    match entries with
    | e :: f :: rest =>
      exact ⟨e.2, f.2, e.1, f.1, List.rel_of_pairwise_cons hsorted List.mem_cons_self, by simp⟩
  · rintro ⟨i, j, a, b, hlt, hi, hj⟩
    match entries with
    | [e] =>
      obtain rfl := List.mem_singleton.mp hi
      exact absurd (congrArg Prod.snd (List.mem_singleton.mp hj)) (Nat.ne_of_gt hlt)
    | e :: f :: rest => exact Nat.succ_lt_succ (Nat.succ_pos _)

/-- The first occurrences of names stand at the first positions of these names. -/
theorem InOrder.firstOccurrences {R : ℕ → String → Prop} {names : List String}
    (h : InOrder R names) :
    InOrder (fun i s => R i s ∧ ∀ j, R j s → i ≤ j) (firstOccurrences names) := by
  obtain ⟨entries, hsorted, hmem, rfl⟩ := h
  simp only [← hmem]
  clear hmem
  induction entries with
  | nil => exact ⟨[], .nil, by simp, rfl⟩
  | cons e rest ih =>
    obtain ⟨name, first⟩ := e
    obtain ⟨hfirst, hrest⟩ := List.pairwise_cons.mp hsorted
    obtain ⟨firsts, hsorted', hmem, hnames⟩ := ih hrest
    refine ⟨(name, first) :: firsts.filter (·.1 ≠ name), ?_, ?_, ?_⟩
    · refine List.pairwise_cons.mpr ⟨fun f hf => ?_, hsorted'.filter _⟩
      exact hfirst f ((hmem f.1 f.2).mp (List.mem_of_mem_filter hf)).1
    · intro s i
      simp only [List.mem_cons, List.mem_filter, hmem, Prod.mk.injEq, decide_eq_true_eq]
      by_cases hs : s = name
      · subst hs
        simp only [true_and, ne_eq, not_true_eq_false, and_false, or_false]
        constructor
        · rintro rfl
          refine ⟨.inl rfl, ?_⟩
          rintro j (rfl | hj)
          · exact Nat.le_refl _
          · exact Nat.le_of_lt (hfirst _ hj)
        · rintro ⟨rfl | hi, hle⟩
          · rfl
          · exact absurd (hle first (.inl rfl)) (Nat.not_le.mpr (hfirst _ hi))
      · simp [hs]
    · rw [List.map_cons, List.map_cons, ApiStubs.firstOccurrences, ← hnames, List.filter_map]
      rfl

end InOrder

namespace Library

variable {language : Language} {d : Document} {name : String} {s : Signature} {i : ℕ}

/-- The operation at a position of a document builds a signature. -/
def BuiltAt (language : Language) (d : Document) (i : ℕ) (s : Signature) : Prop :=
  ∃ path o, d.operations[i]? = some (path, o) ∧
    (buildSignature language.naming path o).outcome = .ok s

/-- A signature is built under a name that no other operation builds, and refers to models of the
library only. -/
structure IsWritten (language : Language) (d : Document) (i : ℕ) (s : Signature) : Prop where
  built : BuiltAt language d i s
  alone : ∀ j t, BuiltAt language d j t → t.name = s.name → j = i
  resolved : ∀ r ∈ s.references, r ∈ (models language d).map (·.name)

/-- The operation at a position, as messages name it, builds a signature with a name. -/
def LabelledAt (language : Language) (d : Document) (name : String) (i : ℕ) (label : String) :
    Prop :=
  ∃ path o s, d.operations[i]? = some (path, o) ∧ label = operationLabel o.verb path ∧
    (buildSignature language.naming path o).outcome = .ok s ∧ s.name = name

/-- An issue about a name that the operation at a position is the first of several to build. It
lists all of them in the order of the document. -/
structure IsCollision (language : Language) (d : Document) (i : ℕ) (x : Issue) : Prop where
  first : ∃ s, BuiltAt language d i s ∧ s.name = x.entity
  earliest : ∀ j t, BuiltAt language d j t → t.name = x.entity → i ≤ j
  several : ∃ j t, i < j ∧ BuiltAt language d j t ∧ t.name = x.entity
  problem : ∃ labels, x.problem = .methodNameCollision x.entity labels ∧
    InOrder (LabelledAt language d x.entity) labels

/-- The client of a library is written from exactly the signatures that may be, and every shared name
has exactly one issue, both in the order of the document. -/
structure Selects (plan : Plan) (d : Document) (l : Library) (signatures : List Signature) :
    Prop where
  client : l.files.filter (·.kind = .client) =
    [clientFile plan.language plan.namespaceName plan.client signatures]
  methods : InOrder (IsWritten plan.language d) signatures
  collisions : InOrder (IsCollision plan.language d) (l.issues.filter isCollision)
  once : ((l.issues.filter isCollision).map (·.entity)).Nodup
  shared : ∀ name, name ∈ (l.issues.filter isCollision).map (·.entity) ↔
    ∃ i j s t, i ≠ j ∧ BuiltAt plan.language d i s ∧ BuiltAt plan.language d j t ∧
      s.name = name ∧ t.name = name

theorem inOrder_builtSignatures (language : Language) (d : Document) :
    InOrder (BuiltAt language d) (builtSignatures language d) := by
  rw [builtSignatures_eq]
  refine ((inOrder_getElem? d.operations).filterMap _).congr fun i s => ?_
  simp only [toOption_eq_some_iff, Prod.exists, BuiltAt]

theorem isShared_eq_true_iff : isShared (builtSignatures language d) name = true ↔
    ∃ i j s t, i < j ∧ (BuiltAt language d i s ∧ s.name = name) ∧
      BuiltAt language d j t ∧ t.name = name := by
  have hnamed := (inOrder_builtSignatures language d).filter (·.name = name)
  rw [isShared, decide_eq_true_iff, hnamed.one_lt_length_iff]
  simp only [decide_eq_true_iff]

theorem isShared_eq_false_iff_alone (hs : BuiltAt language d i s) :
    isShared (builtSignatures language d) s.name = false ↔
      ∀ j t, BuiltAt language d j t → t.name = s.name → j = i := by
  rw [← Bool.not_eq_true, isShared_eq_true_iff]
  constructor
  · intro hno j t ht hname
    rcases Nat.lt_trichotomy i j with hlt | rfl | hlt
    · exact absurd ⟨i, j, s, t, hlt, ⟨hs, rfl⟩, ht, hname⟩ hno
    · rfl
    · exact absurd ⟨j, i, t, s, hlt, ⟨ht, hname⟩, hs, rfl⟩ hno
  · rintro halone ⟨j, k, t, u, hlt, ⟨ht, htname⟩, hu, huname⟩
    obtain rfl := halone j t ht htname
    exact absurd (halone k u hu huname) (Nat.ne_of_gt hlt)

theorem inOrder_methods (language : Language) (d : Document) :
    InOrder (IsWritten language d) (methods language d) := by
  have hdistinct := (inOrder_builtSignatures language d).filter
    fun s => !isShared (builtSignatures language d) s.name
  refine (hdistinct.filter fun s => (firstMissing (models language d) s.references).isNone).congr
    fun i s => ?_
  simp only [Bool.not_eq_true', Option.isNone_iff_eq_none, firstMissing_eq_none_iff]
  constructor
  · rintro ⟨⟨hbuilt, hno⟩, hresolved⟩
    exact ⟨hbuilt, (isShared_eq_false_iff_alone hbuilt).mp hno, hresolved⟩
  · rintro ⟨hbuilt, halone, hresolved⟩
    exact ⟨⟨hbuilt, (isShared_eq_false_iff_alone hbuilt).mpr halone⟩, hresolved⟩

theorem inOrder_labelsOf (language : Language) (d : Document) (name : String) :
    InOrder (LabelledAt language d name) (labelsOf name (builtSignatures language d)) := by
  refine (((inOrder_builtSignatures language d).filter _).map _).congr fun i label => ?_
  constructor
  · rintro ⟨s, ⟨⟨path, o, hat, hbuilt⟩, hname⟩, rfl⟩
    exact ⟨path, o, s, hat, buildSignature_label hbuilt, hbuilt, of_decide_eq_true hname⟩
  · rintro ⟨path, o, s, hat, rfl, hbuilt, hname⟩
    exact ⟨s, ⟨⟨path, o, hat, hbuilt⟩, decide_eq_true hname⟩, buildSignature_label hbuilt⟩

/-- Shared names stand where they occur first. -/
theorem inOrder_sharedNames (language : Language) (d : Document) :
    InOrder (fun i name => (∃ s, BuiltAt language d i s ∧ s.name = name) ∧
      (∀ j t, BuiltAt language d j t → t.name = name → i ≤ j) ∧
        ∃ j t, i < j ∧ BuiltAt language d j t ∧ t.name = name)
      (sharedNames (builtSignatures language d)) := by
  have hnames := ((inOrder_builtSignatures language d).map (·.name)).firstOccurrences
  refine (hnames.filter _).congr fun i name => ?_
  rw [isShared_eq_true_iff, and_assoc]
  refine and_congr_right ?_
  rintro ⟨s, hs, hname⟩
  simp only [forall_exists_index, and_imp]
  refine and_congr_right fun hearliest => ?_
  constructor
  · rintro ⟨j, k, t, u, hlt, ⟨ht, htname⟩, hu, huname⟩
    exact ⟨k, u, Nat.lt_of_le_of_lt (hearliest j t ht htname) hlt, hu, huname⟩
  · rintro ⟨j, t, hlt, ht⟩
    exact ⟨i, j, s, t, hlt, ⟨hs, hname⟩, ht⟩

/-- What the issue at a position is follows from the first name that is built there. -/
theorem isCollision_collisionIssue_iff {x : Issue} :
    IsCollision language d i x ↔ ∃ name, ((∃ s, BuiltAt language d i s ∧ s.name = name) ∧
      (∀ j t, BuiltAt language d j t → t.name = name → i ≤ j) ∧
        ∃ j t, i < j ∧ BuiltAt language d j t ∧ t.name = name) ∧
      collisionIssue (builtSignatures language d) name = x := by
  constructor
  · rintro ⟨hfirst, hearliest, hseveral, labels, hproblem, hlabels⟩
    refine ⟨x.entity, ⟨hfirst, hearliest, hseveral⟩, ?_⟩
    obtain rfl := hlabels.unique (inOrder_labelsOf language d x.entity)
    rw [collisionIssue, ← hproblem]
  · rintro ⟨name, ⟨hfirst, hearliest, hseveral⟩, rfl⟩
    exact ⟨hfirst, hearliest, hseveral, _, rfl, inOrder_labelsOf language d name⟩

theorem generate_selects (plan : Plan) (d : Document) :
    Selects plan d (generate plan d) (methods plan.language d) := by
  have hentities : ((generate plan d).issues.filter isCollision).map (·.entity) =
      sharedNames (builtSignatures plan.language d) := by
    rw [filter_isCollision, List.map_map]
    exact List.map_id _
  constructor
  · exact filter_kind_generate plan d .client
  · exact inOrder_methods plan.language d
  · rw [filter_isCollision]
    exact ((inOrder_sharedNames plan.language d).map _).congr
      fun i x => isCollision_collisionIssue_iff.symm
  · rw [hentities]
    exact nodup_sharedNames _
  · intro name
    rw [hentities, mem_sharedNames, isShared_eq_true_iff]
    constructor
    · rintro ⟨i, j, s, t, hlt, ⟨hs, hname⟩, ht, htname⟩
      exact ⟨i, j, s, t, Nat.ne_of_lt hlt, hs, ht, hname, htname⟩
    · rintro ⟨i, j, s, t, hne, hs, ht, hname, htname⟩
      rcases Nat.lt_or_gt_of_ne hne with hlt | hlt
      · exact ⟨i, j, s, t, hlt, ⟨hs, hname⟩, ht, htname⟩
      · exact ⟨j, i, t, s, hlt, ⟨ht, htname⟩, hs, hname⟩

end Library

end ApiStubs
