import ApiStubs.Text.Order
import Mathlib.Data.List.Nodup

/-! # Sorted names

Sorting keeps the members of a list. What was distinct before ascends afterwards.
-/

namespace ApiStubs.Text

variable {l : List String} {s : String}

@[simp] theorem mem_sorted : s ∈ sorted l ↔ s ∈ l :=
  List.mem_mergeSort

theorem pairwise_sorted (l : List String) : (sorted l).Pairwise (· ≤ ·) := by
  have htrans : ∀ a b c : String, decide (a ≤ b) = true → decide (b ≤ c) = true →
      decide (a ≤ c) = true := by
    simpa using fun _ _ _ => String.le_trans
  have htotal : ∀ a b : String, (decide (a ≤ b) || decide (b ≤ a)) = true := by
    simpa using String.le_total
  exact (List.pairwise_mergeSort htrans htotal l).imp of_decide_eq_true

theorem ascending_sorted (h : l.Nodup) : (sorted l).Pairwise (· < ·) := by
  have hn : (sorted l).Nodup := (List.mergeSort_perm l _).nodup_iff.mpr h
  exact (pairwise_sorted l).imp₂ (fun _ _ hle hne =>
    String.not_le.mp fun hge => hne (String.le_antisymm hle hge)) hn

end ApiStubs.Text
