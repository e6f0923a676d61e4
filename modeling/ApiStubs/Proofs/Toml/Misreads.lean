import ApiStubs.Proofs.Toml.Readings

/-! # Values that are read back

A pass goes wrong where it has read a number and then meets a backslash of the text before the
letter of an escape by number. What it reads there makes the value lighter for good, so the text is
not read back. A value without such places is read back unless its marks are taken for three.
-/

namespace ApiStubs.Toml

open Text

variable {ℓ : Char} {cs out read z : List Char}

section Passes

theorem inOrder_of_not_contains (h : contains ['\\', ℓ] cs = false) : InOrder ℓ cs := by
  induction cs with
  | nil => trivial
  | cons c cs ih =>
    rw [contains_cons, Bool.or_eq_false_iff] at h
    exact ⟨fun _ => h.2, ih h.2⟩

/-- Behind the first number each backslash before the letter is read, and makes the text lighter. -/
theorem weigh_readOn?_armed (hℓ : ℓ ∈ ['u', 'U']) (hread : ℓ ∉ read)
    (hcs : contains ['\\', ℓ] cs = true) (hz : z.head? ≠ some ℓ)
    (h : readOn? ℓ (widthOf ℓ) (fun _ => false) (cs.flatMap (spelt read) ++ z) = some out) :
    weigh false out < weigh false (cs.flatMap (spelt read) ++ z) := by
  induction cs generalizing out with
  | nil => simp [contains] at hcs
  | cons c cs ih =>
    rw [contains_cons, Bool.or_eq_true, decide_eq_true_eq] at hcs
    by_cases hc : numbered? c = some ℓ
    · have hslash : c ≠ '\\' := by
        rintro rfl
        rw [numbered?_of_mem List.mem_cons_self] at hc
        cases hc
      have hrest := hcs.resolve_left fun he => hslash he.1
      rw [List.flatMap_cons, List.append_assoc] at h ⊢
      rw [readOn?_numbered hc hℓ hread rfl] at h
      obtain ⟨later, hlater, rfl⟩ := Option.map_eq_some_iff.mp h
      rw [(spelling _ c).weigh, (spelling _ c).weigh]
      exact Nat.add_lt_add_left (ih hrest hlater) _
    · by_cases hmisread : c = '\\' ∧ cs.head? = some ℓ
      · obtain ⟨rfl, hhead⟩ := hmisread
        obtain ⟨cs, rfl⟩ := List.head?_eq_some_iff.mp hhead
        have hslash : ℓ ≠ '\\' := by rintro rfl; exact absurd hℓ (by decide)
        have htext : ('\\' :: ℓ :: cs).flatMap (spelt read) ++ z =
            '\\' :: '\\' :: ℓ :: (cs.flatMap (spelt read) ++ z) := by
          rw [List.flatMap_cons, List.flatMap_cons, spelt_slash,
            spelt_of_isPlain (isPlain_of_letter (.tail _ hℓ))]
          simp
        have hfirst : ¬('\\' = '\\' ∧
            ('\\' :: ℓ :: (cs.flatMap (spelt read) ++ z)).head? = some ℓ) :=
          fun he => hslash (Option.some.inj he.2).symm
        have hstep := readOn?_append (ℓ := ℓ) (widthOf ℓ) (fun _ => false)
          (p := ['\\']) (splitAtEscape_cons hfirst)
        rw [List.singleton_append] at hstep
        rw [htext, hstep] at h
        obtain ⟨later, hlater, rfl⟩ := Option.map_eq_some_iff.mp h
        rw [htext]
        exact weigh_readOn?_escaped hlater rfl hℓ
      · have hrest := hcs.resolve_left hmisread
        rw [readOn?_step hℓ hc hmisread hz] at h
        obtain ⟨later, hlater, rfl⟩ := Option.map_eq_some_iff.mp h
        rw [List.flatMap_cons, List.append_assoc, (spelling _ c).weigh, (spelling _ c).weigh]
        exact Nat.add_lt_add_left (ih hrest hlater) _

/-- A pass that leaves the weight has met the escapes in order. -/
theorem inOrder_of_readOn? (hℓ : ℓ ∈ ['u', 'U']) (hread : ℓ ∉ read) (hz : z.head? ≠ some ℓ)
    (h : readOn? ℓ (widthOf ℓ) (oddBehind false) (cs.flatMap (spelt read) ++ z) = some out)
    (hweight : weigh false (cs.flatMap (spelt read) ++ z) ≤ weigh false out) : InOrder ℓ cs := by
  induction cs generalizing out with
  | nil => trivial
  | cons c cs ih =>
    rw [List.flatMap_cons, List.append_assoc] at h hweight
    rw [(spelling _ c).weigh] at hweight
    by_cases hc : numbered? c = some ℓ
    · rw [readOn?_numbered hc hℓ hread rfl] at h
      obtain ⟨later, hlater, rfl⟩ := Option.map_eq_some_iff.mp h
      rw [(spelling _ c).weigh] at hweight
      have hcs : contains ['\\', ℓ] cs = false := by
        rw [Bool.eq_false_iff]
        intro hcs
        have hlt := weigh_readOn?_armed hℓ hread hcs hz hlater
        omega
      exact ⟨fun _ => hcs, inOrder_of_not_contains hcs⟩
    · rw [readOn?_unarmed_step hℓ hc] at h
      obtain ⟨later, hlater, rfl⟩ := Option.map_eq_some_iff.mp h
      rw [(spelling _ c).weigh] at hweight
      exact ⟨fun he => absurd he hc, ih hlater (by omega)⟩

theorem inOrder_of_readNumbers? (read : List Char) (hℓ : ℓ ∈ ['u', 'U']) (hread : ℓ ∉ read)
    (h : readNumbers? ℓ (widthOf ℓ) ('"' :: (cs.flatMap (spelt read) ++ ['"'])) = some out)
    (hweight : weigh false ('"' :: (cs.flatMap (spelt read) ++ ['"'])) ≤ weigh false out) :
    InOrder ℓ cs := by
  rw [readNumbers?_mark] at h
  obtain ⟨later, hlater, rfl⟩ := Option.map_eq_some_iff.mp h
  refine inOrder_of_readOn? hℓ hread (head?_mark_ne hℓ) hlater ?_
  rw [weigh_cons (by decide), weigh_cons (by decide)] at hweight
  exact Nat.le_of_add_le_add_left hweight

end Passes

/-- The passes over a value leave its text if the escapes are in order, and something lighter
otherwise. -/
theorem unescaped?_eq_some_iff (hwide : ∀ c ∈ cs, numbered? c ≠ some 'x') :
    (∃ out, unescaped? ('"' :: (cs.flatMap (quotedChar '"') ++ ['"'])) = some out ∧
      cost cs ≤ cost out.dropLast) ↔ InOrder 'u' cs ∧ InOrder 'U' cs := by
  have hvalue : ∀ read, weigh false ('"' :: (cs.flatMap (spelt read) ++ ['"'])) = cost cs := by
    intro read
    have hmark : plainWeight '"' = 0 ∧ weigh false ['"'] = 0 := by decide
    rw [weigh_cons (by decide), weigh_flatMap_spelt, hmark.1, hmark.2]
    omega
  constructor
  · rintro ⟨out, hout, hcost⟩
    obtain ⟨second, hsecond, hletters⟩ := Option.bind_eq_some_iff.mp hout
    obtain ⟨first, hfirst, hsecond⟩ := Option.bind_eq_some_iff.mp hsecond
    rw [quotedChar_eq_spelt] at hfirst
    have hle := cost_unescape? hletters
    have hpass := weigh_readOn? ((readNumbers?_eq _ _ _).symm.trans hsecond) (by decide) false
    have hshort : InOrder 'u' cs := by
      refine inOrder_of_readNumbers? [] (by decide) (by decide) hfirst ?_
      rw [hvalue]
      omega
    have hspelt : readNumbers? 'u' 4 _ = _ :=
      readNumbers?_spelt [] (by decide) (by decide) hshort
    rw [hspelt] at hfirst
    cases hfirst
    refine ⟨hshort, inOrder_of_readNumbers? ['u'] (by decide) (by decide) hsecond ?_⟩
    rw [hvalue]
    omega
  · rintro ⟨hshort, hlong⟩
    refine ⟨_, unescaped?_written hwide hshort hlong, ?_⟩
    rw [← List.cons_append, List.dropLast_concat, cost]
    exact Nat.le_add_left _ _

/-- A value without escapes of two digits is read back if its escapes are in order and its marks are
those around it. -/
theorem readString?_written_iff (hwide : ∀ c ∈ cs, numbered? c ≠ some 'x') :
    readString? '"' ('"' :: (cs.flatMap (quotedChar '"') ++ ['"'])) = some (String.ofList cs) ↔
      (InOrder 'u' cs ∧ InOrder 'U' cs) ∧ cs ≠ ['"'] ∧ ¬ ['"', '"'] <+: cs := by
  rw [readString?_written hwide, ← unquoted_eq_iff]
  constructor
  · intro h
    obtain ⟨out, hout, htext⟩ := Option.map_eq_some_iff.mp h
    have hcs : unquoted '"' out = cs := String.ofList_injective htext
    have hcost := cost_le_of_sublist (unquoted_sublist '"' out)
    rw [hcs] at hcost
    have horder := (unescaped?_eq_some_iff hwide).mp ⟨out, hout, hcost⟩
    rw [unescaped?_written hwide horder.1 horder.2] at hout
    cases hout
    exact ⟨horder, hcs⟩
  · rintro ⟨⟨hshort, hlong⟩, hmarks⟩
    rw [unescaped?_written hwide hshort hlong, Option.map_some, hmarks]

end ApiStubs.Toml
