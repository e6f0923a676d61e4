/-!
# Collections of names

Each name once, in the order of first occurrence or in the order of code points.
-/

namespace ApiStubs

/-- The members of a list in order of first occurrence, each once. -/
def firstOccurrences : List String → List String
  | [] => []
  | s :: rest => s :: (firstOccurrences rest).filter (· ≠ s)

@[simp] theorem mem_firstOccurrences {s : String} {l : List String} :
    s ∈ firstOccurrences l ↔ s ∈ l := by
  induction l with
  | nil => simp [firstOccurrences]
  | cons a rest ih => by_cases h : s = a <;> simp [firstOccurrences, h, ih]

theorem nodup_firstOccurrences (l : List String) : (firstOccurrences l).Nodup := by
  induction l with
  | nil => simp [firstOccurrences]
  | cons a rest ih =>
    rw [firstOccurrences, List.nodup_cons]
    exact ⟨by simp, List.Pairwise.filter _ ih⟩

namespace Text

/-- Texts in the order of their code points. -/
def sorted (texts : List String) : List String :=
  texts.mergeSort fun a b => decide (a ≤ b)

end Text

end ApiStubs
