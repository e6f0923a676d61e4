import ApiStubs.Proofs.Toml.Weights

/-! # The weight of what is read

Reading an escape by number or by letter makes no text heavier, and reading one whose backslash is
escaped itself makes the text lighter. What is read from a value weighs no more than the value, so a
written text is read back only if no pass over its numbers reads such an escape.
-/

namespace ApiStubs.Toml

open Text

variable {c ℓ : Char} {cs ds out read value w z : List Char} {pieces : List (List Char)}
  {width n : Nat} {e skip : Bool} {skips : List Char → Bool} {v : String}

section Numbers

/-- Digits weigh what they number. -/
theorem digitsWeight_of_codePoint? (h : codePoint? ds = some c) :
    (∀ d ∈ ds, ∃ k, hexValue? d = some k) ∧ digitsWeight ds = numberWeight c := by
  obtain ⟨n, hn, h⟩ := Option.bind_eq_some_iff.mp h
  split at h
  · next hvalid =>
    cases h
    have hnumber : (Char.ofNat n).toNat = n := by
      rw [Char.ofNat, dif_pos hvalid.2]
      rfl
    have hlt := toNat_lt (Char.ofNat n)
    rw [hnumber] at hlt
    refine ⟨isSome_of_hexNumber? hn, ?_⟩
    rw [digitsWeight_eq_hex hn hlt, numberWeight, hnumber]
  · cases h

theorem plainWeight_le_number (c : Char) : plainWeight c ≤ 2 + numberWeight c := by
  have hdigit : digitWeight c ≤ 1 := by
    unfold digitWeight
    split <;> omega
  unfold plainWeight
  split <;> [skip; split] <;> omega

theorem escapedWeight_lt_number (c : Char) : escapedWeight c < 2 + numberWeight c := by
  have htwo : ∀ c ∈ ['\\', 'x', 'u', 'U', '0'], 2 < 2 + numberWeight c :=
    List.all_iff_forall_prop.mp (by decide)
  have hthree : ∀ c ∈ ['b', 'f'], 3 < 2 + numberWeight c := List.all_iff_forall_prop.mp (by decide)
  have hdigit : digitWeight c ≤ 1 := by
    unfold digitWeight
    split <;> omega
  unfold escapedWeight
  split
  · next hc => exact htwo c hc
  split
  · next hc => exact hthree c hc
  split
  · omega
  · next hc =>
    rw [plainWeight, if_neg hc]
    split <;> omega

theorem weigh_number (hc : codePoint? ds = some c) (hℓ : ℓ ∈ ['u', 'U']) (z : List Char) :
    weigh false (c :: z) ≤ weigh false ('\\' :: ℓ :: (ds ++ z)) ∧
      weigh true (c :: z) < weigh true ('\\' :: ℓ :: (ds ++ z)) := by
  obtain ⟨hdigits, hweight⟩ := digitsWeight_of_codePoint? hc
  have hletters : ∀ ℓ ∈ ['u', 'U'], ℓ ≠ '\\' ∧ escapedWeight ℓ = 2 :=
    List.all_iff_forall_prop.mp (by decide)
  obtain ⟨hslash, hescape⟩ := hletters ℓ hℓ
  have hbackslash : escapedWeight '\\' = 2 := rfl
  have hplain := plainWeight_le_number c
  have hescaped := escapedWeight_lt_number c
  constructor
  · rw [weigh_slash, weigh_true_cons, weigh_digits hdigits, hescape, hweight]
    by_cases hc : c = '\\'
    · subst hc
      have hle : weigh true z ≤ 2 + 1 + weigh false z := (weigh_true (.inl (Nat.le_refl 1))).2
      have hnumber : numberWeight '\\' = 2 := rfl
      rw [weigh_slash, hnumber]
      omega
    · rw [weigh_cons hc]
      omega
  · rw [weigh_true_cons, weigh_true_cons, weigh_cons hslash, weigh_digits hdigits, hbackslash,
      hweight]
    omega

theorem weigh_numbersRead? (h : numbersRead? ℓ width skip read pieces = some out)
    (hℓ : ℓ ∈ ['u', 'U']) (e : Bool) :
    weigh e out ≤ weigh e (read ++ pieces.flatMap ('\\' :: ℓ :: ·)) := by
  induction pieces generalizing skip read with
  | nil =>
    have hread : read = out := by cases skip <;> exact Option.some.inj h
    simp [hread]
  | cons piece pieces ih =>
    cases skip with
    | true => simpa using ih h
    | false =>
      obtain ⟨c, hc, hrest⟩ := Option.bind_eq_some_iff.mp h
      have hlater := ih hrest
      have hnumber : ∀ e, weigh e (c :: (piece.drop width ++ pieces.flatMap ('\\' :: ℓ :: ·))) + 0 ≤
          weigh e ('\\' :: ℓ :: (piece.take width ++
            (piece.drop width ++ pieces.flatMap ('\\' :: ℓ :: ·)))) := by
        intro e
        have hstep := weigh_number hc hℓ (piece.drop width ++ pieces.flatMap ('\\' :: ℓ :: ·))
        cases e with
        | false => exact hstep.1
        | true => exact Nat.le_of_lt hstep.2
      have hbehind := weigh_append hnumber e read
      rw [← List.append_assoc (piece.take width), List.take_append_drop] at hbehind
      simp only [List.flatMap_cons, List.append_assoc, List.cons_append] at hlater ⊢
      exact Nat.le_trans hlater hbehind

/-- A pass over the numbers of a text makes it no heavier. -/
theorem weigh_readOn? (h : readOn? ℓ width skips cs = some out) (hℓ : ℓ ∈ ['u', 'U']) (e : Bool) :
    weigh e out ≤ weigh e cs := by
  have hpieces := flatMap_splitAtEscape ℓ cs
  cases hs : splitAtEscape ℓ cs with
  | nil => exact absurd hs (splitAtEscape_ne_nil ℓ cs)
  | cons first pieces =>
    rw [hs] at hpieces
    rw [readOn?_eq hs] at h
    have hle := weigh_numbersRead? h hℓ e
    have hcs : first ++ pieces.flatMap ('\\' :: ℓ :: ·) = cs := by simpa using hpieces
    rwa [hcs] at hle

/-- An escape by number whose backslash is escaped itself makes a text lighter if it is read. -/
theorem weigh_readOn?_escaped (h : readOn? ℓ width skips ('\\' :: ℓ :: cs) = some out)
    (hskips : skips [] = false) (hℓ : ℓ ∈ ['u', 'U']) :
    weigh true out < weigh true ('\\' :: ℓ :: cs) := by
  have hpieces := flatMap_splitAtEscape ℓ cs
  cases hs : splitAtEscape ℓ cs with
  | nil => exact absurd hs (splitAtEscape_ne_nil ℓ cs)
  | cons piece pieces =>
    rw [readOn?_eq (splitAtEscape_escape ℓ cs), hs, hskips] at h
    obtain ⟨c, hc, hrest⟩ := Option.bind_eq_some_iff.mp h
    have hcs : piece ++ pieces.flatMap ('\\' :: ℓ :: ·) = cs := by simpa [hs] using hpieces
    have hle := weigh_numbersRead? hrest hℓ true
    have hnumber := (weigh_number hc hℓ (piece.drop width ++ pieces.flatMap ('\\' :: ℓ :: ·))).2
    rw [← List.append_assoc (piece.take width), List.take_append_drop, hcs] at hnumber
    simp only [List.nil_append, List.cons_append] at hle
    exact Nat.lt_of_le_of_lt hle hnumber

end Numbers

section Values

theorem cost_dropLast_cons (c : Char) (cs : List Char) :
    cost (c :: cs).dropLast ≤ costOf c + cost cs.dropLast := by
  cases cs with
  | nil => exact Nat.zero_le _
  | cons d cs =>
    rw [List.dropLast_cons_of_ne_nil (by simp)]
    exact Nat.le_refl _

/-- Reading the escapes by letter leaves no character but the last one that weighed less before. -/
theorem cost_unescape? (h : unescape? cs = some out) : cost out.dropLast ≤ weigh false cs := by
  fun_induction unescape? cs generalizing out with
  | case1 c rest x hx ih =>
    obtain ⟨later, hlater, rfl⟩ := Option.map_eq_some_iff.mp h
    have hfirst := cost_dropLast_cons x later
    have hrest := ih hlater
    rw [weigh_slash, weigh_true_cons, ← costOf_escapedChar? hx]
    omega
  | case2 rest hnone ih =>
    obtain ⟨later, hlater, rfl⟩ := Option.map_eq_some_iff.mp h
    have hfirst := cost_dropLast_cons '\\' later
    have hrest := ih hlater
    have hslash : escapedWeight '\\' = costOf '\\' := by decide
    rw [weigh_slash, weigh_true_cons, hslash]
    omega
  | case3 c rest hnone hc hletter ih =>
    obtain ⟨later, hlater, rfl⟩ := Option.map_eq_some_iff.mp h
    have hfirst := cost_dropLast_cons '\\' (c :: later)
    have hsecond := cost_dropLast_cons c later
    have hrest := ih hlater
    have hescape : escapedWeight c = costOf '\\' + costOf c := by
      rcases hletter with rfl | rfl <;> decide
    rw [weigh_slash, weigh_true_cons, hescape]
    omega
  | case4 => cases h
  | case5 c rest hshape ih =>
    obtain ⟨later, hlater, rfl⟩ := Option.map_eq_some_iff.mp h
    by_cases hc : c = '\\'
    · cases rest with
      | nil => cases hlater; exact Nat.zero_le _
      | cons d rest => exact (hshape d rest hc rfl).elim
    · have hfirst := cost_dropLast_cons c later
      have hrest := ih hlater
      rw [costOf, if_neg hc] at hfirst
      rw [weigh_cons hc]
      omega
  | case6 => cases h; exact Nat.zero_le _

/-- What is read of a value weighs no more than the value. -/
theorem cost_unescaped? (h : unescaped? value = some out) :
    cost out.dropLast ≤ weigh false value := by
  obtain ⟨second, hsecond, hletters⟩ := Option.bind_eq_some_iff.mp h
  obtain ⟨first, hfirst, hsecond⟩ := Option.bind_eq_some_iff.mp hsecond
  rw [readNumbers?_eq] at hfirst hsecond
  calc cost out.dropLast ≤ weigh false second := cost_unescape? hletters
    _ ≤ weigh false first := weigh_readOn? hsecond (by decide) false
    _ ≤ weigh false value := weigh_readOn? hfirst (by decide) false

theorem inside_sublist (hn : n ≠ 0) (cs : List Char) : List.Sublist (inside n cs) cs.dropLast := by
  have hinside : inside n cs = (cs.dropLast.drop n).take (cs.length - n - n) := by
    rw [inside, List.dropLast_eq_take, List.drop_take, List.take_take]
    congr 1
    omega
  rw [hinside]
  exact (List.take_sublist _ _).trans (List.drop_sublist _ _)

theorem unquoted_sublist (mark : Char) (cs : List Char) :
    List.Sublist (unquoted mark cs) cs.dropLast := by
  have hsub : ∀ tripled : Bool,
      List.Sublist (inside 1 (if tripled then inside 2 cs else cs)) cs.dropLast := by
    intro tripled
    cases tripled with
    | false => exact inside_sublist Nat.one_ne_zero cs
    | true =>
      have hinner := inside_sublist Nat.one_ne_zero (inside 2 cs)
      exact (hinner.trans (List.dropLast_sublist _)).trans (inside_sublist (by decide) cs)
  exact hsub _

theorem cost_le_of_sublist (h : List.Sublist cs out) : cost cs ≤ cost out := by
  induction h with
  | slnil => exact Nat.le_refl _
  | cons c _ ih => exact Nat.le_add_left_of_le ih
  | cons_cons c _ ih => exact Nat.add_le_add_left ih _

/-- No text is read that costs more than its value weighs. -/
theorem cost_readString? (h : readString? '"' value = some v) :
    cost v.toList ≤ weigh false value := by
  rw [readString?_eq] at h
  split at h
  · obtain ⟨out, hout, rfl⟩ := Option.map_eq_some_iff.mp h
    rw [String.toList_ofList]
    exact Nat.le_trans (cost_le_of_sublist (unquoted_sublist '"' out)) (cost_unescaped? hout)
  · cases h

end Values

end ApiStubs.Toml
