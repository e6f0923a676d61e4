import ApiStubs.Proofs.Toml.Joining
import ApiStubs.Proofs.Toml.Values

/-! # The weight of a written text

Every text in a file has a weight, which its backslashes, letters and digits make up. Writing a
text without joining pieces gives its spelling the weight of the text. Each join makes a text
lighter, and reading makes none heavier, so a text with joins in it is not read back.
-/

namespace ApiStubs.Toml

open Text

variable {c d ℓ : Char} {cs ds p out read body value a b w y z : List Char}
  {pieces later : List (List Char)} {width n k : Nat} {e skip : Bool}

section Digits

/-- A digit weighs nothing if it is zero. -/
def digitWeight (c : Char) : Nat :=
  match hexValue? c with
  | some (_ + 1) => 1
  | _ => 0

def digitsWeight : List Char → Nat
  | [] => 0
  | c :: cs => digitWeight c + digitsWeight cs

/-- The weight of the digits with which a character is numbered, zeros in front or not. -/
def numberWeight (c : Char) : Nat :=
  digitsWeight (hex 8 c.toNat)

theorem toNat_lt (c : Char) : c.toNat < 16 ^ 8 := by
  have hvalid : c.toNat < 0xD800 ∨ 0xDFFF < c.toNat ∧ c.toNat < 0x110000 := c.valid
  omega

theorem digitWeight_eq (h : hexValue? c = some k) : digitWeight c = if k = 0 then 0 else 1 := by
  rw [digitWeight, h]
  cases k <;> rfl

theorem digitsWeight_append (a b : List Char) :
    digitsWeight (a ++ b) = digitsWeight a + digitsWeight b := by
  induction a with
  | nil => simp [digitsWeight]
  | cons c a ih => simp [digitsWeight, ih, Nat.add_assoc]

theorem digitsWeight_hex_zero (width : Nat) : digitsWeight (hex width 0) = 0 := by
  induction width with
  | zero => rfl
  | succ width ih => rw [hex, digitsWeight_append, ih]; rfl

theorem hexValue?_lt (h : hexValue? c = some k) : k < 16 ∧ c.toNat < 128 := by
  unfold hexValue? at h
  split at h
  · next hc =>
    have hle : c.toNat ≤ 57 := hc.2
    cases h
    omega
  split at h
  · next hc =>
    have hle : c.toNat ≤ 102 := hc.2
    cases h
    omega
  split at h
  · next hc =>
    have hle : c.toNat ≤ 70 := hc.2
    cases h
    omega
  · cases h

/-- Digits weigh what the digits of their number weigh. -/
theorem digitsWeight_eq_hex (h : hexNumber? cs = some n) (hn : n < 16 ^ width) :
    digitsWeight cs = digitsWeight (hex width n) := by
  induction cs using List.reverseRecOn generalizing width n with
  | nil =>
    cases h
    rw [digitsWeight_hex_zero]
    rfl
  | append_singleton cs c ih =>
    rw [hexNumber?_append] at h
    obtain ⟨m, hm, h⟩ := Option.bind_eq_some_iff.mp h
    obtain ⟨k, hk, ⟨⟩⟩ := Option.bind_eq_some_iff.mp h
    have hlt := (hexValue?_lt hk).1
    cases width with
    | zero =>
      obtain ⟨rfl, rfl⟩ : m = 0 ∧ k = 0 := by omega
      rw [digitsWeight_append, ih hm hn]
      simp [digitsWeight, digitWeight_eq hk, hex]
    | succ width =>
      have hquotient : (m * 16 + k) / 16 = m := by omega
      have hrest : (m * 16 + k) % 16 = k := by omega
      have hwidth : m < 16 ^ width := by rw [Nat.pow_succ] at hn; omega
      have hdigit : digitWeight (hexDigit k) = digitWeight c := by
        rw [digitWeight_eq (hexValue?_hexDigit k hlt), digitWeight_eq hk]
      rw [hex, hquotient, hrest, digitsWeight_append, digitsWeight_append,
        ih hm hwidth]
      simp [digitsWeight, hdigit]

end Digits

section Weight

/-- The weight of a character that stands for itself. -/
def plainWeight (c : Char) : Nat :=
  if (numbered? c).isSome then 2 + numberWeight c
  else if c = 'x' then 1
  else digitWeight c

/-- The weight of an escape by a character. No text has one by a character that is written by its
number, so such an escape weighs less than the number. -/
def escapedWeight (c : Char) : Nat :=
  if c ∈ ['\\', 'x', 'u', 'U', '0'] then 2
  else if c ∈ ['b', 'f'] then 3
  else if (numbered? c).isSome then 1 + numberWeight c
  else plainWeight c

/-- The weight of a text; `escaped` says that a backslash before it escapes its first character. -/
def weigh (escaped : Bool) : List Char → Nat
  | [] => 0
  | c :: cs =>
    if escaped then escapedWeight c + weigh false cs
    else if c = '\\' then weigh true cs
    else plainWeight c + weigh false cs

/-- The weight that a character gives to what it is written as. -/
def costOf (c : Char) : Nat :=
  if c = '\\' then 2 else plainWeight c

def cost : List Char → Nat
  | [] => 0
  | c :: cs => costOf c + cost cs

theorem weigh_true_cons (c : Char) (cs : List Char) :
    weigh true (c :: cs) = escapedWeight c + weigh false cs := rfl

theorem weigh_slash (cs : List Char) : weigh false ('\\' :: cs) = weigh true cs := rfl

theorem weigh_cons (h : c ≠ '\\') (cs : List Char) :
    weigh false (c :: cs) = plainWeight c + weigh false cs := by
  rw [weigh, if_neg (by simp), if_neg h]

theorem plainWeight_le (h : 1 ≤ k ∨ numbered? c = none) :
    plainWeight c ≤ k + escapedWeight c := by
  have htwo : ∀ c ∈ ['\\', 'x', 'u', 'U', '0'], plainWeight c ≤ 2 :=
    List.all_iff_forall_prop.mp (by decide)
  have hthree : ∀ c ∈ ['b', 'f'], plainWeight c ≤ 3 := List.all_iff_forall_prop.mp (by decide)
  unfold escapedWeight
  split
  · next hc => exact Nat.le_add_left_of_le (htwo c hc)
  split
  · next hc => exact Nat.le_add_left_of_le (hthree c hc)
  split
  · next hc =>
    have hk : 1 ≤ k := h.resolve_right fun hnone => by simp [hnone] at hc
    rw [plainWeight, if_pos hc]
    omega
  · exact Nat.le_add_left _ k

theorem escapedWeight_le (c : Char) : escapedWeight c ≤ 2 + plainWeight c := by
  have hdigits : ∀ c ∈ ['b', 'f'], plainWeight c = 1 := List.all_iff_forall_prop.mp (by decide)
  unfold escapedWeight
  split
  · exact Nat.le_add_right 2 _
  split
  · next hc => rw [hdigits c hc]
  split
  · next hc => rw [plainWeight, if_pos hc]; omega
  · exact Nat.le_add_left _ 2

/-- A text in which no character stands that is written by its number. -/
def Unnumbered (cs : List Char) : Prop :=
  ∀ c ∈ cs, numbered? c = none

/-- A backslash before a text makes it no lighter, and heavier by two at most, up to what a
character loses by being escaped. -/
theorem weigh_true (h : 1 ≤ k ∨ Unnumbered cs) :
    weigh false cs ≤ k + weigh true cs ∧ weigh true cs ≤ 2 + k + weigh false cs := by
  induction cs with
  | nil => exact ⟨Nat.zero_le _, Nat.zero_le _⟩
  | cons c cs ih =>
    have hplain : plainWeight c ≤ k + escapedWeight c :=
      plainWeight_le (h.imp_right fun hcs => hcs c List.mem_cons_self)
    have hescaped := escapedWeight_le c
    have hrest := ih (h.imp_right fun hcs d hd => hcs d (.tail _ hd))
    rw [weigh_true_cons]
    by_cases hc : c = '\\'
    · subst hc
      have hslash : escapedWeight '\\' = 2 := rfl
      rw [weigh_slash, hslash]
      omega
    · rw [weigh_cons hc]
      omega

theorem weigh_false_le (h : Unnumbered cs) (e : Bool) : weigh false cs ≤ weigh e cs := by
  cases e with
  | false => exact Nat.le_refl _
  | true => simpa using (weigh_true (k := 0) (.inr h)).1

theorem weigh_le (h : Unnumbered cs) (e : Bool) : weigh e cs ≤ 2 + weigh false cs := by
  cases e with
  | false => exact Nat.le_add_left _ 2
  | true => exact (weigh_true (k := 0) (.inr h)).2

/-- A part of a text is not heavier than the whole. -/
theorem weigh_append_left (e : Bool) (p z : List Char) : weigh e p ≤ weigh e (p ++ z) := by
  induction p generalizing e with
  | nil => exact Nat.zero_le _
  | cons c p ih =>
    simp only [weigh, List.cons_append]
    split
    · exact Nat.add_le_add_left (ih _) _
    · split
      · exact ih _
      · exact Nat.add_le_add_left (ih _) _

end Weight

section Spelling

/-- A digit is a character that stands for itself. -/
theorem weight_of_hexValue? (h : hexValue? c = some k) :
    c ≠ '\\' ∧ plainWeight c = digitWeight c := by
  have hascii : ∀ n < 128, (hexValue? (Char.ofNat n)).isSome = true →
      Char.ofNat n ≠ '\\' ∧ plainWeight (Char.ofNat n) = digitWeight (Char.ofNat n) := by
    decide
  have hc := hascii c.toNat (hexValue?_lt h).2
  rw [Char.ofNat_toNat] at hc
  exact hc (by rw [h]; rfl)

theorem isSome_of_hexNumber? (h : hexNumber? cs = some n) :
    ∀ d ∈ cs, ∃ k, hexValue? d = some k := by
  induction cs using List.reverseRecOn generalizing n with
  | nil => simp
  | append_singleton cs c ih =>
    rw [hexNumber?_append] at h
    obtain ⟨m, hm, h⟩ := Option.bind_eq_some_iff.mp h
    obtain ⟨k, hk, -⟩ := Option.bind_eq_some_iff.mp h
    intro d hd
    rcases List.mem_append.mp hd with hd | hd
    · exact ih hm d hd
    · exact ⟨k, List.mem_singleton.mp hd ▸ hk⟩

theorem weigh_digits (h : ∀ d ∈ ds, ∃ k, hexValue? d = some k) (z : List Char) :
    weigh false (ds ++ z) = digitsWeight ds + weigh false z := by
  induction ds with
  | nil => simp [digitsWeight]
  | cons d ds ih =>
    obtain ⟨⟨k, hk⟩, hds⟩ := List.forall_mem_cons.mp h
    obtain ⟨hslash, hweight⟩ := weight_of_hexValue? hk
    rw [List.cons_append, weigh_cons hslash, ih hds, hweight]
    simp [digitsWeight, Nat.add_assoc]

theorem escapedWeight_letter (h : ℓ ∈ ['x', 'u', 'U']) : escapedWeight ℓ = 2 := by
  have hletters : ∀ ℓ ∈ ['x', 'u', 'U'], escapedWeight ℓ = 2 :=
    List.all_iff_forall_prop.mp (by decide)
  exact hletters ℓ h

/-- An escape by letter weighs what its character costs. -/
theorem costOf_escapedChar? (h : escapedChar? d = some c) : costOf c = escapedWeight d := by
  unfold escapedChar? at h
  split at h <;> cases h <;> decide

/-- A spelling weighs what its character costs. -/
theorem Spelling.weigh (h : Spelling read c p) (z : List Char) :
    weigh false (p ++ z) = costOf c + weigh false z := by
  cases h with
  | plain hc =>
    have hslash : c ≠ '\\' := fun he => hc (he ▸ List.mem_cons_self)
    rw [List.singleton_append, weigh_cons hslash, costOf, if_neg hslash]
  | slash hc => subst hc; rfl
  | @letter d hd hc =>
    show escapedWeight d + Toml.weigh false z = _
    rw [costOf_escapedChar? hc]
  | @number ℓ hℓ =>
    have hslash := ne_slash_of_numbered? hℓ
    have hlt := toNat_lt_of_numbered? hℓ
    have hnumber : hexNumber? (hex (widthOf ℓ) c.toNat) = some c.toNat := by
      rw [hexNumber?_hex, Nat.mod_eq_of_lt hlt]
    have hwide := toNat_lt c
    show escapedWeight ℓ + Toml.weigh false (hex (widthOf ℓ) c.toNat ++ z) = _
    rw [escapedWeight_letter (mem_of_numbered? hℓ), weigh_digits (isSome_of_hexNumber? hnumber),
      digitsWeight_eq_hex hnumber hwide, costOf, if_neg hslash, plainWeight, hℓ]
    simp [numberWeight, Nat.add_assoc]

theorem weigh_flatMap_spelt (read cs z : List Char) :
    weigh false (cs.flatMap (spelt read) ++ z) = cost cs + weigh false z := by
  induction cs with
  | nil => simp [cost]
  | cons c cs ih =>
    rw [List.flatMap_cons, List.append_assoc, (spelling read c).weigh, ih]
    simp [cost, Nat.add_assoc]

end Spelling

section Joining

/-- Halving the backslashes of a part makes no text heavier. -/
theorem weigh_replacePair {v : List Char} (h : Unnumbered (v ++ z)) (e : Bool) :
    weigh e (replacePair '\\' '\\' '\\' v ++ z) ≤ weigh e (v ++ z) := by
  fun_induction replacePair '\\' '\\' '\\' v generalizing e with
  | case1 x y rest hxy ih =>
    obtain ⟨rfl, rfl⟩ := hxy
    have hkept : Unnumbered (rest ++ z) := fun c hc => h c (.tail _ (.tail _ hc))
    have hhalved : Unnumbered (replacePair '\\' '\\' '\\' rest ++ z) := by
      intro c hc
      rcases List.mem_append.mp hc with hc | hc
      · rcases mem_replacePair hc with rfl | hc
        · exact h _ List.mem_cons_self
        · exact hkept c (List.mem_append_left _ hc)
      · exact hkept c (List.mem_append_right _ hc)
    have hrest := ih hkept false
    have hslash : escapedWeight '\\' = 2 := rfl
    cases e with
    | false =>
      have hle := weigh_le hhalved true
      show weigh true (replacePair '\\' '\\' '\\' rest ++ z) ≤
        escapedWeight '\\' + weigh false (rest ++ z)
      omega
    | true =>
      have hle := weigh_false_le hkept true
      show escapedWeight '\\' + weigh false (replacePair '\\' '\\' '\\' rest ++ z) ≤
        escapedWeight '\\' + weigh true (rest ++ z)
      omega
  | case2 x y rest hxy ih =>
    have hkept : Unnumbered (y :: rest ++ z) := fun c hc => h c (.tail _ hc)
    simp only [List.cons_append, weigh] at ih ⊢
    split
    · exact Nat.add_le_add_left (ih hkept false) _
    · split
      · exact ih hkept true
      · exact Nat.add_le_add_left (ih hkept false) _
  | case3 cs hcs => exact Nat.le_refl _

/-- What stands before two texts does not change by how much one is lighter. -/
theorem weigh_append (h : ∀ e, weigh e a + k ≤ weigh e b) (e : Bool) (p : List Char) :
    weigh e (p ++ a) + k ≤ weigh e (p ++ b) := by
  induction p generalizing e with
  | nil => exact h e
  | cons c p ih =>
    simp only [weigh, List.cons_append]
    split
    · rw [Nat.add_assoc]; exact Nat.add_le_add_left (ih _) _
    · split
      · exact ih _
      · rw [Nat.add_assoc]; exact Nat.add_le_add_left (ih _) _

/-- A joiner is lighter than the escape that it replaces. -/
theorem weigh_joiner {joiner : List Char} (h : joiner ∈ [['x'], ['u', '0', '0']]) (e : Bool)
    (z : List Char) : weigh e (joiner ++ z) < weigh e ('\\' :: 'x' :: z) := by
  have hweights : plainWeight 'x' = 1 ∧ plainWeight 'u' = 0 ∧ plainWeight '0' = 0 := by
    decide
  have hescaped : escapedWeight 'x' = 2 ∧ escapedWeight 'u' = 2 ∧ escapedWeight '\\' = 2 := by
    decide
  simp only [List.mem_cons, List.not_mem_nil, or_false] at h
  rcases h with rfl | rfl <;> cases e <;> simp [weigh, hweights, hescaped]

theorem Unnumbered.append (ha : Unnumbered a) (hb : Unnumbered b) : Unnumbered (a ++ b) :=
  fun c hc => (List.mem_append.mp hc).elim (ha c) (hb c)

theorem unnumbered_flatMap (h : Unnumbered pieces.flatten) :
    Unnumbered (pieces.flatMap ('\\' :: 'x' :: ·)) := by
  have hescape : Unnumbered ['\\', 'x'] := List.all_iff_forall_prop.mp (by decide)
  intro c hc
  obtain ⟨piece, hpiece, hc⟩ := List.mem_flatMap.mp hc
  have hmem : c ∈ ['\\', 'x'] ++ piece := hc
  rcases List.mem_append.mp hmem with hc | hc
  · exact hescape c hc
  · exact h c (List.mem_flatten.mpr ⟨piece, hpiece, hc⟩)

theorem Joins.unnumbered (h : Joins pieces later) (hpieces : Unnumbered pieces.flatten) :
    Unnumbered later.flatten := by
  have hjoiner : Unnumbered ['\\', 'x', 'u', '0'] :=
    List.all_iff_forall_prop.mp (by decide)
  exact fun c hc => (h.mem hc).elim (hjoiner c) (hpieces c)

/-- A join makes a text lighter. -/
theorem Joins.weigh_lt (h : Joins pieces later) (hpieces : Unnumbered pieces.flatten)
    (hz : Unnumbered z) (e : Bool) :
    weigh e (later.flatMap ('\\' :: 'x' :: ·) ++ z) <
      weigh e (pieces.flatMap ('\\' :: 'x' :: ·) ++ z) := by
  induction h generalizing e with
  | @skip pieces later _ ih =>
    have hempty : weigh e (pieces.flatMap ('\\' :: 'x' :: ·) ++ z) ≤
        weigh e ('\\' :: 'x' :: (pieces.flatMap ('\\' :: 'x' :: ·) ++ z)) := by
      have hrest : Unnumbered pieces.flatten := hpieces
      have hle := weigh_le ((unnumbered_flatMap hrest).append hz) e
      cases e with
      | false => exact Nat.le_add_left _ (escapedWeight 'x')
      | true =>
        refine Nat.le_trans hle ?_
        show 2 + _ ≤ escapedWeight '\\' + weigh false ('x' :: _)
        rw [weigh_cons (by decide)]
        exact Nat.add_le_add (by decide) (Nat.le_add_left _ _)
    exact Nat.lt_of_lt_of_le (ih hpieces e) hempty
  | @join v next joiner more hv hjoiner =>
    have hparts : Unnumbered (v ++ '\\' :: 'x' :: (next ++
        (more.flatMap ('\\' :: 'x' :: ·) ++ z))) := by
      have hall := (unnumbered_flatMap hpieces).append hz
      simp only [List.flatMap_cons, List.cons_append, List.append_assoc] at hall
      exact fun c hc => hall c (.tail _ (.tail _ hc))
    generalize hrest : next ++ (more.flatMap ('\\' :: 'x' :: ·) ++ z) = rest at hparts
    have hjoined := weigh_append (k := 1) (fun e => weigh_joiner hjoiner e rest) e
      ('\\' :: 'x' :: replacePair '\\' '\\' '\\' v)
    have hhalved := weigh_append (k := 0) (fun e => weigh_replacePair hparts e) e ['\\', 'x']
    simp only [List.flatMap_cons, List.cons_append, List.append_assoc, List.nil_append, hrest]
      at hjoined hhalved ⊢
    exact Nat.lt_of_lt_of_le hjoined hhalved

theorem JoinsTo.weigh_le (h : JoinsTo pieces body) (hpieces : Unnumbered pieces.flatten)
    (hz : Unnumbered z) (e : Bool) :
    weigh e ('\\' :: 'x' :: (body ++ z)) ≤ weigh e (pieces.flatMap ('\\' :: 'x' :: ·) ++ z) := by
  induction h with
  | last v => simp
  | step hjoins _ ih =>
    have hlt := hjoins.weigh_lt hpieces hz e
    exact Nat.le_trans (ih (hjoins.unnumbered hpieces)) (Nat.le_of_lt hlt)

/-- More than one piece is joined, and the first join makes the text lighter. -/
theorem JoinsTo.weigh_lt (h : JoinsTo pieces body) (hmany : 2 ≤ pieces.length)
    (hpieces : Unnumbered pieces.flatten) (hz : Unnumbered z) (e : Bool) :
    weigh e ('\\' :: 'x' :: (body ++ z)) < weigh e (pieces.flatMap ('\\' :: 'x' :: ·) ++ z) := by
  cases h with
  | last v => simp at hmany
  | step hjoins hlater =>
    have hle := hlater.weigh_le (hjoins.unnumbered hpieces) hz e
    exact Nat.lt_of_le_of_lt hle (hjoins.weigh_lt hpieces hz e)

end Joining

end ApiStubs.Toml
