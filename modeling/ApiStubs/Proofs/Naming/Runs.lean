import ApiStubs.Proofs.Naming.Identifier
import Mathlib.Logic.Function.Iterate

/-! # A cleaned name from its runs

Cleaning replaces, squeezes in passes and cuts off. The same name is said directly by the longest
runs of letters and numbers: joined by single underscores, with a word in front of a digit and a
mark behind a keyword. The passes end for every text.
-/

namespace ApiStubs.Naming.Snake

variable {c : Char} {cs w : List Char} {ws : List (List Char)} {name : String}

section Runs

/-- The longest runs of letters and numbers of a text, from left to right. A run goes on to the end
of the text or to a character that is neither; the other characters are passed over. -/
inductive Runs : List Char → List (List Char) → Prop where
  | none : Runs [] []
  | other {c : Char} {cs : List Char} {ws : List (List Char)} :
      Character.isAlphanumeric c = false → Runs cs ws → Runs (c :: cs) ws
  | run {w cs : List Char} {ws : List (List Char)} :
      w ≠ [] → (∀ c ∈ w, Character.isAlphanumeric c = true) →
      (∀ c ∈ cs.head?, Character.isAlphanumeric c = false) →
      Runs cs ws → Runs (w ++ cs) (w :: ws)

theorem Runs.words_eq (h : Runs cs ws) : words cs = ws := by
  induction h with
  | none => exact words_nil
  | other hc _ ih => exact (words_append_cons hc [] _).trans ih
  | @run w cs ws hne hw hend _ ih =>
    match cs with
    | [] => rw [← ih, List.append_nil, words_of_alphanumeric hw hne, words_nil]
    | c :: cs =>
      have hc : Character.isAlphanumeric c = false := hend c rfl
      have hrest : words (c :: cs) = words cs := words_append_cons hc [] cs
      rw [words_append_cons hc, words_of_alphanumeric hw hne, ← hrest, ih, List.singleton_append]

/-- Reading on from a piece of a run; the piece may be empty. -/
theorem exists_runs_append (hw : ∀ c ∈ w, Character.isAlphanumeric c = true) (cs : List Char) :
    ∃ ws, Runs (w ++ cs) ws := by
  induction cs generalizing w with
  | nil =>
    by_cases hne : w = []
    · exact ⟨[], by simpa [hne] using Runs.none⟩
    · exact ⟨[w], .run hne hw (by simp) .none⟩
  | cons c cs ih =>
    cases hc : Character.isAlphanumeric c with
    | false =>
      obtain ⟨ws, hws⟩ := ih (w := []) (by simp)
      have hother : Runs (c :: cs) ws := .other hc hws
      by_cases hne : w = []
      · exact ⟨ws, by simpa [hne] using hother⟩
      · exact ⟨w :: ws, .run hne hw (by simpa using hc) hother⟩
    | true =>
      have hw' := alphanumeric_concat hw hc
      simpa using ih hw'

/-- Every text has one list of runs, and these are its words. -/
theorem runs_iff : Runs cs ws ↔ ws = words cs := by
  constructor
  · intro h; exact h.words_eq.symm
  · rintro rfl
    obtain ⟨ws, h⟩ := exists_runs_append (w := []) (by simp) cs
    exact h.words_eq ▸ h

end Runs

/-- Runs joined by single underscores, or a word alone if there are none, with the word in front of
a digit and a mark behind a keyword. -/
def ofRuns (ws : List (List Char)) : String :=
  let text := if ws = [] then "param".toList else ['_'].intercalate ws
  let spelled := if text.head?.any Character.isDigit then
    "param_".toList ++ text else text
  let name := String.ofList spelled
  if name ∈ keywords then name ++ "_" else name

theorem clean_eq_ofRuns (h : Runs name.toList ws) : clean name = ofRuns ws := by
  have hws : ∀ w ∈ words name.toList, w ≠ [] := fun w hw => ne_nil_of_mem_words hw
  have hstarted : started (joined ws) =
      let text := if ws = [] then "param".toList else ['_'].intercalate ws
      if text.head?.any Character.isDigit then "param_".toList ++ text else text := by
    obtain rfl := runs_iff.mp h
    by_cases hnil : words name.toList = []
    · have hdigit : Character.isDigit 'p' = false := by decide
      simp [hnil, started, joined, hdigit]
    · obtain ⟨c, cs, hcs⟩ := List.exists_cons_of_ne_nil (mt (joined_eq_nil_iff hws).mp hnil)
      rw [joined] at hcs ⊢
      by_cases hdigit : Character.isDigit c = true <;> simp [hnil, hcs, started, hdigit]
  simp only [clean, trimWhile_squeeze, ← runs_iff.mp h, hstarted, List.contains_iff_mem, ofRuns]

/-- The passes over a text end: after some number of them no underscore is beside another one,
and until then there always is one. -/
theorem exists_squeeze_eq_iterate (cs : List Char) :
    ∃ n, squeeze cs = halve^[n] cs ∧ Text.contains ['_', '_'] (halve^[n] cs) = false ∧
      ∀ m < n, Text.contains ['_', '_'] (halve^[m] cs) = true := by
  fun_induction squeeze cs with
  | case1 cs h ih =>
    obtain ⟨n, hn, hlast, hbefore⟩ := ih
    refine ⟨n + 1, hn, hlast, fun m hm => ?_⟩
    cases m with
    | zero => exact h
    | succ m => exact hbefore m (Nat.lt_of_succ_lt_succ hm)
  | case2 cs h => exact ⟨0, rfl, Bool.not_eq_true _ ▸ h, by simp⟩

/-- A cleaned name is the one that the runs of the name say directly. The passes on the way end, and
cleaning again changes nothing. -/
theorem clean_of_runs (name : String) :
    (∃ ws, (∀ vs, Runs name.toList vs ↔ vs = ws) ∧ clean name = ofRuns ws) ∧
      (∃ n, squeeze (name.toList.map plain) = halve^[n] (name.toList.map plain) ∧
        Text.contains ['_', '_'] (halve^[n] (name.toList.map plain)) = false ∧
        ∀ m < n, Text.contains ['_', '_'] (halve^[m] (name.toList.map plain)) = true) ∧
      clean (clean name) = clean name := by
  refine ⟨⟨words name.toList, fun vs => runs_iff, ?_⟩, exists_squeeze_eq_iterate _,
    clean_clean name⟩
  exact clean_eq_ofRuns (runs_iff.mpr rfl)

end ApiStubs.Naming.Snake
