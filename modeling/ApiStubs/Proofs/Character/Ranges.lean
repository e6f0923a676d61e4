import ApiStubs.Character.Class
import Mathlib.Data.List.Chain
import Mathlib.Data.List.TakeWhile

/-! # Classes of characters

A class is a list of ascending ranges, so it holds what one of the ranges holds, and another class
lies in it if each range of that class lies in one of its ranges. This is how the characters that
start an identifier lie among those with which it goes on.
-/

namespace ApiStubs.Character

variable {c : Char} {cs : List Char} {n : Nat} {ranges inner : List (Nat × Nat)}

/-- Ranges in ascending order of their first code points. -/
def Ascending (ranges : List (Nat × Nat)) : Prop :=
  ranges.IsChain fun r s => r.1 ≤ s.1
deriving Decidable

/-- Whether each of some ascending ranges lies in one of the others, which ascend too. -/
def liesIn (inner : List (Nat × Nat)) : List (Nat × Nat) → Bool
  | [] => inner.isEmpty
  | r :: ranges => liesIn (inner.dropWhile fun s => r.1 ≤ s.1 && s.2 ≤ r.2) ranges

section Ranges

theorem exists_of_inRanges (h : inRanges ranges n = true) : ∃ r ∈ ranges, r.1 ≤ n ∧ n ≤ r.2 := by
  induction ranges with
  | nil => simp [inRanges] at h
  | cons r ranges ih =>
    obtain ⟨lo, hi⟩ := r
    rw [inRanges] at h
    split at h
    · cases h
    · next hlo =>
      rw [Bool.or_eq_true, decide_eq_true_eq] at h
      rcases h with hhi | h
      · exact ⟨(lo, hi), List.mem_cons_self, Nat.le_of_not_lt hlo, hhi⟩
      · obtain ⟨r, hr, hn⟩ := ih h
        exact ⟨r, List.mem_cons_of_mem _ hr, hn⟩

theorem inRanges_iff (h : Ascending ranges) :
    inRanges ranges n = true ↔ ∃ r ∈ ranges, r.1 ≤ n ∧ n ≤ r.2 := by
  refine ⟨exists_of_inRanges, ?_⟩
  have hpairs : ranges.Pairwise fun r s => r.1 ≤ s.1 := List.isChain_iff_pairwise.mp h
  clear h
  induction ranges with
  | nil => simp
  | cons s ranges ih =>
    obtain ⟨hs, hranges⟩ := List.pairwise_cons.mp hpairs
    rintro ⟨r, hr, hlo, hhi⟩
    rw [inRanges]
    rcases List.mem_cons.mp hr with rfl | hr
    · simp [hlo, hhi]
    · have hle := hs r hr
      rw [if_neg (by omega), ih hranges ⟨r, hr, hlo, hhi⟩, Bool.or_true]

/-- The code points of a class. -/
theorem mem_of_inRanges (h : inRanges ranges n = true) :
    n ∈ ranges.flatMap fun r => List.range' r.1 (r.2 + 1 - r.1) := by
  obtain ⟨r, hr, hlo, hhi⟩ := exists_of_inRanges h
  refine List.mem_flatMap.mpr ⟨r, hr, List.mem_range'_1.mpr ?_⟩
  omega

theorem exists_of_liesIn (h : liesIn inner ranges = true) {s : Nat × Nat} (hs : s ∈ inner) :
    ∃ r ∈ ranges, r.1 ≤ s.1 ∧ s.2 ≤ r.2 := by
  induction ranges generalizing inner with
  | nil => simp [List.isEmpty_iff.mp h] at hs
  | cons r ranges ih =>
    have hsplit := List.takeWhile_append_dropWhile
      (p := fun s : Nat × Nat => r.1 ≤ s.1 && s.2 ≤ r.2) (l := inner)
    rw [← hsplit, List.mem_append] at hs
    rcases hs with hs | hs
    · have hin := List.mem_takeWhile_imp hs
      rw [Bool.and_eq_true, decide_eq_true_eq, decide_eq_true_eq] at hin
      exact ⟨r, List.mem_cons_self, hin⟩
    · obtain ⟨t, ht, hin⟩ := ih h hs
      exact ⟨t, List.mem_cons_of_mem r ht, hin⟩

theorem inRanges_of_liesIn (hranges : Ascending ranges) (h : liesIn inner ranges = true)
    (hn : inRanges inner n = true) : inRanges ranges n = true := by
  obtain ⟨s, hs, hlo, hhi⟩ := exists_of_inRanges hn
  obtain ⟨r, hr, hin⟩ := exists_of_liesIn h hs
  exact (inRanges_iff hranges).mpr ⟨r, hr, by omega⟩

end Ranges

section Identifiers

/-- What may start an identifier may stand anywhere in it. -/
theorem isIdentifierContinue_of_start (h : isIdentifierStart c = true) :
    isIdentifierContinue c = true :=
  inRanges_of_liesIn (by decide +kernel) (by decide +kernel) h

theorem isIdentifier_iff : isIdentifier cs = true ↔
    (∃ c ∈ cs.head?, isIdentifierStart c = true) ∧ ∀ c ∈ cs, isIdentifierContinue c = true := by
  match cs with
  | [] => simp [isIdentifier]
  | c :: cs =>
    simp only [isIdentifier, Bool.and_eq_true, List.all_eq_true, List.head?_cons, Option.mem_some,
      exists_eq_left', List.forall_mem_cons]
    constructor
    · rintro ⟨hc, hcs⟩
      exact ⟨hc, isIdentifierContinue_of_start hc, hcs⟩
    · rintro ⟨hc, -, hcs⟩
      exact ⟨hc, hcs⟩

/-- Below the first 128 code points the classes agree: letters and digits go on an identifier, and
all but the digits start one. -/
theorem identifier_of_ascii (hascii : c.toNat < 128) (h : isAlphanumeric c = true) :
    isIdentifierContinue c = true ∧ (isDigit c = true ∨ isIdentifierStart c = true) := by
  have hall : ∀ n < 128, inRanges alphanumericRanges n = true →
      inRanges identifierContinueRanges n = true ∧
        (inRanges digitRanges n = true ∨ inRanges identifierStartRanges n = true) := by
    decide +kernel
  exact hall c.toNat hascii h

end Identifiers

end ApiStubs.Character
