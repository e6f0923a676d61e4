import ApiStubs.Proofs.Library.Closure
import ApiStubs.Proofs.Library.Distinct

/-! # What is left out leaves no trace

The part of a document that a library is written from, taken as a document of its own, has the same
library to the last file, and nothing in it is missing.
-/

namespace ApiStubs

/-- The entries that pass a test. -/
def Table.filter {κ α : Type} (t : Table κ α) (test : κ × α → Bool) : Table κ α :=
  ⟨t.entries.filter test, t.nodup.sublist (List.filter_sublist.map _)⟩

/-- A document with the schemas and operations that pass a test. -/
def Document.restrict (d : Document) (schema : String × Schema → Bool)
    (operation : String × Operation → Bool) : Document :=
  { d with
    schemas := d.schemas.filter schema
    routes := d.routes.map fun route =>
      { route with operations := route.operations.filter fun p => operation (route.path, p.2) } }

theorem Document.operations_restrict (d : Document) (schema : String × Schema → Bool)
    (operation : String × Operation → Bool) :
    (d.restrict schema operation).operations = d.operations.filter operation := by
  simp [operations, restrict, Table.filter, List.flatMap_map, List.filter_flatMap, List.filter_map,
    Function.comp_def]

namespace Library

variable {language : Language} {d : Document} {start present rest : List Model}

/-- The schemas with a model and the operations with a method in the library of a document. -/
def writtenPart (language : Language) (d : Document) : Document :=
  d.restrict (fun p => p.1 ∈ (models language d).map (·.name)) fun p =>
    (buildSignature language.naming p.1 p.2).outcome.toOption.any (· ∈ methods language d)

theorem sweep_of_resolved (h : ∀ m ∈ rest, ∀ r ∈ m.references, r ∈ present.map (·.name)) :
    sweep rest present = (present, []) := by
  induction rest with
  | nil => rfl
  | cons m rest ih =>
    have hm := firstMissing_eq_none_iff.mpr (h m List.mem_cons_self)
    rw [sweep, hm]
    exact ih fun o ho => h o (List.mem_cons_of_mem m ho)

theorem closeModels_of_closed (h : Closed start) : closeModels start = (start, []) := by
  have hs : sweep start start = (start, []) := sweep_of_resolved h
  rw [closeModels]
  simp [hs]

theorem mem_models_of_name_mem {m : Model} (hm : m ∈ builtModels language d)
    (h : m.name ∈ (models language d).map (·.name)) : m ∈ models language d := by
  obtain ⟨o, ho, he⟩ := List.mem_map.mp h
  have hb := (models_sublist language d).subset ho
  rwa [List.inj_on_of_nodup_map (nodup_builtModels_names language d) hm hb he.symm]

theorem builtModels_writtenPart (language : Language) (d : Document) :
    builtModels language (writtenPart language d) = models language d := by
  have hpart : builtModels language (writtenPart language d) =
      (builtModels language d).filter fun m => m.name ∈ (models language d).map (·.name) := by
    rw [builtModels_eq, builtModels_eq, List.filter_filterMap]
    refine (List.filterMap_filter).trans (List.filterMap_congr fun p _ => ?_)
    cases h : (buildModel language.naming p.1 p.2).outcome with
    | error problem => simp [Except.toOption]
    | ok m => simp [Except.toOption, Option.filter_some, buildModel_name h]
  rw [hpart]
  conv_rhs => rw [models_eq_filter]
  refine List.filter_congr fun m hm => Bool.eq_iff_iff.mpr ?_
  rw [decide_eq_true_eq, decide_eq_true_eq]
  constructor
  · intro h; exact (mem_models_iff.mp (mem_models_of_name_mem hm h)).2
  · intro h; exact List.mem_map_of_mem (mem_models_iff.mpr ⟨hm, h⟩)

theorem builtSignatures_writtenPart (language : Language) (d : Document) :
    builtSignatures language (writtenPart language d) = methods language d := by
  have hpart : builtSignatures language (writtenPart language d) =
      (builtSignatures language d).filter (· ∈ methods language d) := by
    rw [builtSignatures_eq, writtenPart, Document.operations_restrict, builtSignatures_eq,
      List.filter_filterMap]
    refine (List.filterMap_filter).trans (List.filterMap_congr fun p _ => ?_)
    cases (buildSignature language.naming p.1 p.2).outcome with
    | error problem => simp [Except.toOption]
    | ok s => simp [Except.toOption, Option.filter_some]
  rw [hpart]
  conv_rhs => rw [methods, resolvedMethods, distinctMethods, List.filter_filter]
  refine List.filter_congr fun s hs => Bool.eq_iff_iff.mpr ?_
  simp [mem_methods_iff, hs, and_comm]

theorem modelFailures_writtenPart (language : Language) (d : Document) :
    failures (modelAttempts language (writtenPart language d)) = [] := by
  refine List.eq_nil_iff_forall_not_mem.mpr fun i hi => ?_
  obtain ⟨p, hp, -, herr⟩ := mem_modelFailures.mp hi
  obtain ⟨hpd, hkept⟩ := List.mem_filter.mp hp
  obtain ⟨m, hm, he⟩ := List.mem_map.mp (of_decide_eq_true hkept)
  obtain ⟨q, hq, hok⟩ := mem_builtModels.mp ((models_sublist language d).subset hm)
  obtain rfl : q = p := List.inj_on_of_nodup_map d.schemas.nodup hq hpd
    ((buildModel_name hok).symm.trans he)
  simp [hok] at herr

theorem methodFailures_writtenPart (language : Language) (d : Document) :
    failures (methodAttempts language (writtenPart language d)) = [] := by
  rw [methodFailures_eq, writtenPart, Document.operations_restrict]
  refine List.filterMap_eq_nil_iff.mpr fun p hp => ?_
  have hkept := (List.mem_filter.mp hp).2
  cases h : (buildSignature language.naming p.1 p.2).outcome with
  | error problem => simp [h, Except.toOption] at hkept
  | ok s => rfl

theorem models_writtenPart (language : Language) (d : Document) :
    closeModels (builtModels language (writtenPart language d)) = (models language d, []) := by
  obtain ⟨_, _, h⟩ := closeModels_sweeps (builtModels language d)
  rw [builtModels_writtenPart]
  exact closeModels_of_closed h.closed

theorem methods_writtenPart (language : Language) (d : Document) :
    methods language (writtenPart language d) = methods language d := by
  rw [methods, models, models_writtenPart, builtSignatures_writtenPart,
    distinctMethods_of_nodup (nodup_methods_names language d)]
  exact List.filter_eq_self.mpr fun s hs => by simp [(mem_methods_iff.mp hs).2.2]

theorem issues_writtenPart (plan : Plan) (d : Document) :
    (generate plan (writtenPart plan.language d)).issues = [] := by
  have hn := nodup_methods_names plan.language d
  have hunresolved :
      unresolvedIssues (models plan.language d) (methods plan.language d) = [] :=
    List.filterMap_eq_nil_iff.mpr fun s hs => by simp [(mem_methods_iff.mp hs).2.2]
  rw [generate, modelIssues, methodIssues, modelFailures_writtenPart, methodFailures_writtenPart,
    models, models_writtenPart, builtSignatures_writtenPart, sharedNames_of_nodup hn,
    distinctMethods_of_nodup hn, hunresolved]
  rfl

theorem generate_writtenPart (plan : Plan) (d : Document) :
    generate plan (writtenPart plan.language d) =
      { files := (generate plan d).files, issues := [] } := by
  have hfiles : (generate plan (writtenPart plan.language d)).files =
      (generate plan d).files := by
    rw [generate, generate, models, models_writtenPart, methods_writtenPart]
  rw [← hfiles, ← issues_writtenPart plan d]

end Library

end ApiStubs
