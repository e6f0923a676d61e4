import ApiStubs.Proofs.Library.Attempts

/-! # Methods of distinct names

Leaving out every method whose name another one has leaves methods of pairwise distinct names, and
leaves methods alone whose names are distinct.
-/

namespace ApiStubs.Library

variable {signatures : List Signature} {name : String} {s : Signature} {language : Language}
  {d : Document}

theorem isShared_eq_false_iff :
    isShared signatures name = false ↔ (signatures.map (·.name)).count name ≤ 1 := by
  rw [isShared, decide_eq_false_iff_not, Nat.not_lt, List.count, List.countP_map,
    List.countP_eq_length_filter]
  rfl

theorem nodup_distinctMethods (signatures : List Signature) :
    ((distinctMethods signatures).map (·.name)).Nodup := by
  refine List.nodup_iff_count_le_one.mpr fun name => ?_
  cases hs : isShared signatures name with
  | false =>
    have hsub : (distinctMethods signatures).Sublist signatures := List.filter_sublist
    exact Nat.le_trans ((hsub.map _).count_le name) (isShared_eq_false_iff.mp hs)
  | true =>
    rw [List.count_eq_zero_of_not_mem]
    · exact Nat.zero_le 1
    · intro hmem
      obtain ⟨s, hin, rfl⟩ := List.mem_map.mp hmem
      simp [distinctMethods, hs] at hin

theorem isShared_of_nodup (h : (signatures.map (·.name)).Nodup) (name : String) :
    isShared signatures name = false :=
  isShared_eq_false_iff.mpr (List.nodup_iff_count_le_one.mp h name)

theorem distinctMethods_of_nodup (h : (signatures.map (·.name)).Nodup) :
    distinctMethods signatures = signatures :=
  List.filter_eq_self.mpr fun s _ => by rw [isShared_of_nodup h s.name]; rfl

theorem sharedNames_of_nodup (h : (signatures.map (·.name)).Nodup) :
    sharedNames signatures = [] :=
  List.filter_eq_nil_iff.mpr fun name _ => by simp [isShared_of_nodup h name]

theorem mem_methods_iff : s ∈ methods language d ↔ s ∈ builtSignatures language d ∧
    isShared (builtSignatures language d) s.name = false ∧
      firstMissing (models language d) s.references = none := by
  simp only [methods, resolvedMethods, distinctMethods, List.mem_filter, Bool.not_eq_true',
    Option.isNone_iff_eq_none, and_assoc]

theorem methods_sublist (language : Language) (d : Document) :
    (methods language d).Sublist (distinctMethods (builtSignatures language d)) :=
  List.filter_sublist

theorem nodup_methods_names (language : Language) (d : Document) :
    ((methods language d).map (·.name)).Nodup :=
  (nodup_distinctMethods _).sublist ((methods_sublist language d).map _)

end ApiStubs.Library
