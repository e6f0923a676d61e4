import ApiStubs.Character.Case

/-! # Characters in upper case

A character in upper case is itself, or the tables move it to one or several others. Among the
ASCII characters these are capital letters only, so a capital at the start of a text brings in no
sign that was not there before, such as a slash.
-/

namespace ApiStubs.Character

variable {c d : Char} {n m : Nat} {runs : List CaseRun}

section Runs

/-- The code point to which a run moves one of its own. -/
def CaseRun.moved (r : CaseRun) (n : Nat) : Nat :=
  if r.up then n + r.shift else n - r.shift

theorem CaseRun.moved_mono (r : CaseRun) (h : n ≤ m) : r.moved n ≤ r.moved m := by
  unfold CaseRun.moved
  split <;> omega

theorem exists_of_shifted (h : shifted runs n = some m) :
    ∃ r ∈ runs, r.lo ≤ n ∧ n ≤ r.hi ∧ m = r.moved n := by
  induction runs with
  | nil => cases h
  | cons r runs ih =>
    rw [shifted] at h
    split at h
    · next hn =>
      cases h
      exact ⟨r, List.mem_cons_self, hn.1, hn.2.1, rfl⟩
    · obtain ⟨s, hs, hm⟩ := ih h
      exact ⟨s, List.mem_cons_of_mem r hs, hm⟩

end Runs

section Capitals

/-- All code points from one to another are those of ASCII capitals, or those of characters beyond
ASCII. The surrogates are none of these. -/
def CapitalOrBeyond (lo hi : Nat) : Prop :=
  65 ≤ lo ∧ hi ≤ 90 ∨ 128 ≤ lo ∧ hi < 0xD800 ∨ 0xE000 ≤ lo ∧ hi < 0x110000
deriving Decidable

theorem capitalOrBeyond_of_shifted (h : shifted upperRuns n = some m) : CapitalOrBeyond m m := by
  -- a run moves its code points in order, so its ends are enough
  have hends : ∀ r ∈ upperRuns, CapitalOrBeyond (r.moved r.lo) (r.moved r.hi) := by
    decide +kernel
  obtain ⟨r, hr, hlo, hhi, rfl⟩ := exists_of_shifted h
  have hrun := hends r hr
  have hle := r.moved_mono hlo
  have hge := r.moved_mono hhi
  unfold CapitalOrBeyond at hrun ⊢
  omega

theorem capitalOrBeyond_of_lookup {codes : List Nat} (h : upperExpansions.lookup n = some codes)
    (hm : m ∈ codes) : CapitalOrBeyond m m := by
  have hall : ∀ e ∈ upperExpansions, ∀ m ∈ e.2, CapitalOrBeyond m m := by decide +kernel
  obtain ⟨before, after, he, -⟩ := List.lookup_eq_some_iff.mp h
  exact hall (n, codes) (by simp [he]) m hm

theorem exists_of_mem_upper (h : d ∈ upper c) :
    d = c ∨ ∃ n, CapitalOrBeyond n n ∧ d = Char.ofNat n := by
  unfold upper mapped at h
  split at h
  · next codes hcodes =>
    obtain ⟨m, hm, rfl⟩ := List.mem_map.mp h
    exact .inr ⟨m, capitalOrBeyond_of_lookup hcodes hm, rfl⟩
  · split at h
    · next m hm =>
      exact .inr ⟨m, capitalOrBeyond_of_shifted hm, List.mem_singleton.mp h⟩
    · exact .inl (List.mem_singleton.mp h)

/-- What upper case makes of another character is an ASCII capital or no ASCII character. -/
theorem capitalOrBeyond_of_mem_upper (h : d ∈ upper c) (hne : d ≠ c) :
    CapitalOrBeyond d.toNat d.toNat := by
  obtain ⟨n, hn, rfl⟩ := (exists_of_mem_upper h).resolve_left hne
  have hvalid : n.isValidChar := by
    unfold CapitalOrBeyond at hn
    unfold Nat.isValidChar
    omega
  rwa [Char.ofNat, dif_pos hvalid]

theorem slash_not_mem_upper (h : c ≠ '/') : '/' ∉ upper c := by
  intro hmem
  have hslash := capitalOrBeyond_of_mem_upper hmem h.symm
  exact absurd hslash (by decide)

end Capitals

end ApiStubs.Character
