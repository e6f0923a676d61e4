import ApiStubs.Proofs.Toml.Weights

/-! # What stands between the marks

A text without escapes of two digits stands between its marks as it is spelt. Any other one loses
weight where its pieces are joined, and starts with no mark.
-/

namespace ApiStubs.Toml

open Text

variable {c d ℓ : Char} {body cs p piece read : List Char} {pieces later : List (List Char)}
  {n : Nat} {t : String}

section Pieces

theorem mem_of_mem_splitAtEscape (hp : p ∈ splitAtEscape ℓ cs) (hd : d ∈ p) : d ∈ cs := by
  fun_induction splitAtEscape ℓ cs generalizing p with
  | case1 => simp_all
  | case2 c => simp_all
  | case3 c d cs hc ih =>
    rcases List.mem_cons.mp hp with rfl | hp
    · cases hd
    · exact .tail _ (.tail _ (ih hp hd))
  | case4 c d cs hc hs => exact absurd hs (splitAtEscape_ne_nil ℓ _)
  | case5 c d cs hc w ws hs ih =>
    rw [hs] at ih
    rcases List.mem_cons.mp hp with rfl | hp
    · rcases List.mem_cons.mp hd with rfl | hd
      · exact List.mem_cons_self
      · exact .tail _ (ih List.mem_cons_self hd)
    · exact .tail _ (ih (.tail _ hp) hd)

theorem two_le_length_splitAtEscape (h : contains ['\\', ℓ] cs = true) :
    2 ≤ (splitAtEscape ℓ cs).length := by
  induction cs with
  | nil => simp [contains] at h
  | cons c cs ih =>
    by_cases hc : c = '\\' ∧ cs.head? = some ℓ
    · obtain ⟨rfl, hhead⟩ := hc
      obtain ⟨cs, rfl⟩ := List.head?_eq_some_iff.mp hhead
      have hne := List.length_pos_iff.mpr (splitAtEscape_ne_nil ℓ cs)
      rw [splitAtEscape_escape, List.length_cons]
      omega
    · rw [contains_cons, decide_eq_false hc, Bool.false_or] at h
      rw [splitAtEscape_cons hc, List.length_modifyHead]
      exact ih h

end Pieces

section Weight

/-- A spelling holds no character that is written by its number. -/
theorem Spelling.unnumbered (h : Spelling [] c p) : Unnumbered p := by
  have hletters : ∀ d ∈ ['"', 'n', 'r', 't'], numbered? d = none :=
    List.all_iff_forall_prop.mp (by decide)
  have hdigits : ∀ k < 16, numbered? (hexDigit k) = none := by decide
  have hslash : numbered? '\\' = none := numbered?_of_mem List.mem_cons_self
  intro d hd
  cases h with
  | plain _ hnumber =>
    obtain rfl := List.mem_singleton.mp hd
    exact Option.eq_none_iff_forall_ne_some.mpr fun ℓ hℓ => absurd (hnumber ℓ hℓ) (by simp)
  | slash =>
    have hd : d = '\\' := by simpa using hd
    exact hd ▸ hslash
  | @letter k hk =>
    rcases List.mem_cons.mp hd with rfl | hd
    · exact hslash
    · exact List.mem_singleton.mp hd ▸ hletters k hk
  | @number ℓ hℓ =>
    rcases List.mem_cons.mp hd with rfl | hd
    · exact hslash
    rcases List.mem_cons.mp hd with rfl | hd
    · exact (isPlain_of_letter (mem_of_numbered? hℓ)).2
    obtain ⟨k, hk, rfl⟩ := mem_hex hd
    exact hdigits k hk

theorem unnumbered_requoted (cs : List Char) : Unnumbered (requoted cs) := by
  rw [requoted_eq]
  intro d hd
  obtain ⟨c, -, hc⟩ := List.mem_flatMap.mp hd
  exact (spelling_quoted c).unnumbered d hc

/-- Joined pieces weigh less than their text costs. -/
theorem weigh_lt_of_body? (hbody : body? t = some body)
    (h : contains ['\\', 'x'] (requoted t.toList) = true) :
    weigh false ('"' :: (body ++ ['"'])) < cost t.toList := by
  have hmark : plainWeight '"' = 0 ∧ weigh false ['"'] = 0 := by decide
  have hpieces : Unnumbered (splitAtEscape 'x' (requoted t.toList)).flatten := by
    intro d hd
    obtain ⟨piece, hpiece, hd⟩ := List.mem_flatten.mp hd
    exact unnumbered_requoted _ d (mem_of_mem_splitAtEscape hpiece hd)
  have hunmarked : Unnumbered ['"'] := List.all_iff_forall_prop.mp (by decide)
  have hlt := (joinsTo_of_rejoin? hbody).weigh_lt (two_le_length_splitAtEscape h) hpieces
    hunmarked false
  rw [flatMap_splitAtEscape, requoted_eq, quotedChar_eq_spelt] at hlt
  simp only [weigh_slash, weigh_true_cons, List.cons_append, weigh_flatMap_spelt, hmark.2] at hlt
  rw [weigh_cons (by decide), hmark.1]
  omega

end Weight

section Starts

/-- A text that does not start with a mark. -/
def Unmarked (cs : List Char) : Prop :=
  ∃ c ∈ cs.head?, c ≠ '"'

/-- The first of some pieces does not start with a mark, or is empty and the second one does not. -/
def Opens : List (List Char) → Prop
  | [] :: p :: _ => Unmarked p
  | p :: _ => Unmarked p
  | [] => False

theorem head?_replacePair (a b : Char) (cs : List Char) :
    (replacePair a b a cs).head? = cs.head? := by
  fun_cases replacePair a b a cs with
  | case1 x y rest hxy => rw [hxy.1]; rfl
  | case2 => rfl
  | case3 => rfl

theorem Unmarked.opens (h : Unmarked p) : Opens (p :: pieces) := by
  cases p with
  | nil => obtain ⟨c, hc, -⟩ := h; cases hc
  | cons c p => exact h

theorem unmarked_append (h : Unmarked p) (cs : List Char) : Unmarked (p ++ cs) := by
  obtain ⟨c, hc, hmark⟩ := h
  exact ⟨c, List.mem_head?_append_of_mem_head? hc, hmark⟩

/-- What comes before a mark of an unmarked text is not empty. -/
theorem Unmarked.before_mark {q : List Char} (h : Unmarked cs) (hq : cs ++ ['"'] = p ++ '"' :: q) :
    Unmarked p := by
  obtain ⟨c, hc, hmark⟩ := h
  obtain ⟨cs, rfl⟩ := List.head?_eq_some_iff.mp hc
  cases p with
  | nil => exact absurd (List.cons.inj hq).1 hmark
  | cons d p => exact ⟨d, rfl, (List.cons.inj hq).1 ▸ hmark⟩

theorem Joins.opens (h : Joins pieces later) (hpieces : Opens pieces) : Opens later := by
  induction h with
  | @skip pieces later hjoins ih =>
    cases hjoins with
    | skip => obtain ⟨c, hc, -⟩ := hpieces; cases hc
    | join => exact ih (Unmarked.opens hpieces)
  | @join v next joiner more hv hjoiner =>
    obtain ⟨c, v, rfl⟩ := List.exists_cons_of_ne_nil hv
    have hhalved : Unmarked (replacePair '\\' '\\' '\\' (c :: v)) := by
      rw [Unmarked, head?_replacePair]
      exact hpieces
    exact (unmarked_append (unmarked_append hhalved joiner) next).opens

theorem JoinsTo.unmarked (h : JoinsTo pieces body) (hpieces : Opens pieces) : Unmarked body := by
  induction h with
  | last v => cases v <;> exact hpieces
  | step hjoins _ ih => exact ih (hjoins.opens hpieces)

theorem opens_written (h : contains ['\\', 'x'] (cs.flatMap (quotedChar '"')) = true) :
    Opens (splitAtEscape 'x' (cs.flatMap (quotedChar '"'))) := by
  cases cs with
  | nil => simp [contains] at h
  | cons c cs =>
    rw [List.flatMap_cons]
    generalize cs.flatMap (quotedChar '"') = z
    have hpiece : ∀ d q, d ≠ '"' → ¬(d = '\\' ∧ q.head? = some 'x') →
        Opens (splitAtEscape 'x' (d :: q)) := by
      intro d q hd hq
      rw [splitAtEscape_cons hq]
      cases hs : splitAtEscape 'x' q with
      | nil => exact absurd hs (splitAtEscape_ne_nil _ _)
      | cons w ws => exact ⟨d, rfl, hd⟩
    have hspelling := spelling_quoted c
    generalize quotedChar '"' c = p at hspelling
    cases hspelling with
    | plain hc =>
      refine hpiece c z (fun he => hc (by simp [he])) fun he => hc (by simp [he.1])
    | slash => exact hpiece _ _ (by decide) (by simp)
    | @letter k hk =>
      have hx : k ≠ 'x' := fun he => (ne_of_mem_letters hk).2.2 (he ▸ List.mem_cons_self)
      exact hpiece _ _ (by decide) (by simpa using hx)
    | @number ℓ hℓ =>
      by_cases hx : ℓ = 'x'
      · subst hx
        have hmark : '"' ∉ hex (widthOf 'x') c.toNat := not_mem_hex (by decide)
        obtain ⟨a, ds, hdigits⟩ := List.exists_cons_of_length_pos
          (l := hex (widthOf 'x') c.toNat) (by rw [length_hex]; decide)
        rw [List.cons_append, List.cons_append, splitAtEscape_escape,
          splitAtEscape_append (not_mem_hex (by decide))]
        cases hs : splitAtEscape 'x' z with
        | nil => exact absurd hs (splitAtEscape_ne_nil _ _)
        | cons w ws =>
          rw [hdigits] at hmark
          refine unmarked_append (p := hex (widthOf 'x') c.toNat) ⟨a, by simp [hdigits], ?_⟩ w
          exact fun he => hmark (he ▸ List.mem_cons_self)
      · exact hpiece _ _ (by decide) (by simpa using hx)

end Starts

end ApiStubs.Toml
