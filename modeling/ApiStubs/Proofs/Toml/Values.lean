import ApiStubs.Proofs.Toml.Numbers

/-! # Reading a written value

A value is closed by its last mark and has known escapes only, so what is read is what the passes
over the numbers and the letters leave of it. They leave the text if its escapes are in order, and
the marks are taken off if it does not start as if there were three of them.
-/

namespace ApiStubs.Toml

open Text

variable {c d ℓ : Char} {cs p out read w z : List Char} {pieces : List (List Char)} {odd : Bool}

section Escapes

/-- Only known escapes occur in what follows a text that ends in no backslash. -/
def knownFrom (cs : List Char) : Bool :=
  escapesKnown false ((splitOn '\\' cs).drop 1)

theorem knownFrom_cons (h : c ≠ '\\') (cs : List Char) : knownFrom (c :: cs) = knownFrom cs := by
  rw [knownFrom, knownFrom, splitOn_cons_of_ne h]
  cases splitOn '\\' cs <;> rfl

theorem knownFrom_append (h : '\\' ∉ p) (z : List Char) : knownFrom (p ++ z) = knownFrom z := by
  rw [knownFrom, knownFrom, splitOn_append_of_not_mem h]
  cases splitOn '\\' z <;> rfl

/-- An escaped backslash escapes nothing. -/
theorem knownFrom_slashes (cs : List Char) : knownFrom ('\\' :: '\\' :: cs) = knownFrom cs := by
  have hbehind : knownFrom ('\\' :: '\\' :: cs) = escapesKnown true (splitOn '\\' cs) := by
    simp [knownFrom, splitOn_cons_self, escapesKnown]
  rw [hbehind]
  cases cs with
  | nil => rfl
  | cons c cs =>
    by_cases hc : c = '\\'
    · subst hc
      simp [knownFrom, splitOn_cons_self, escapesKnown]
    · rw [knownFrom_cons hc, knownFrom, splitOn_cons_of_ne hc]
      cases hs : splitOn '\\' cs with
      | nil => exact absurd hs (splitOn_ne_nil _ cs)
      | cons w ws => simp [escapesKnown]

theorem knownFrom_escape (hd : d ≠ '\\')
    (h : ((escapedChar? d).isSome || d == 'u' || d == 'U') = true) (cs : List Char) :
    knownFrom ('\\' :: d :: cs) = knownFrom cs := by
  rw [knownFrom, splitOn_cons_self, splitOn_cons_of_ne hd, knownFrom]
  cases hs : splitOn '\\' cs with
  | nil => exact absurd hs (splitOn_ne_nil _ cs)
  | cons w ws => simp [escapesKnown, h]

theorem Spelling.knownFrom (h : Spelling read c p) (hc : numbered? c ≠ some 'x') (z : List Char) :
    knownFrom (p ++ z) = knownFrom z := by
  cases h with
  | plain hno =>
    refine knownFrom_append (fun hmem => hno ?_) z
    exact List.mem_singleton.mp hmem ▸ List.mem_cons_self
  | slash => exact knownFrom_slashes z
  | letter hd hletter =>
    exact knownFrom_escape (ne_of_mem_letters hd).2.1 (by simp [hletter]) z
  | @number ℓ hℓ =>
    have hknown : ((escapedChar? ℓ).isSome || ℓ == 'u' || ℓ == 'U') = true := by
      have hmem := mem_of_numbered? hℓ
      simp only [List.mem_cons, List.not_mem_nil, or_false] at hmem
      rcases hmem with rfl | rfl | rfl
      · exact absurd hℓ hc
      · rfl
      · rfl
    rw [List.cons_append, List.cons_append, knownFrom_escape (ne_of_numbered? hℓ).2 hknown,
      knownFrom_append (not_mem_hex (by decide))]

theorem knownFrom_written (h : ∀ c ∈ cs, numbered? c ≠ some 'x') (z : List Char) :
    knownFrom (cs.flatMap (quotedChar '"') ++ z) = knownFrom z := by
  induction cs with
  | nil => rfl
  | cons c cs ih =>
    obtain ⟨hc, hcs⟩ := List.forall_mem_cons.mp h
    rw [List.flatMap_cons, List.append_assoc, (spelling_quoted c).knownFrom hc, ih hcs]

theorem unescape?_append (h : '\\' ∉ p) (z : List Char) :
    unescape? (p ++ z) = (unescape? z).map (p ++ ·) := by
  induction p with
  | nil => simp
  | cons c p ih =>
    obtain ⟨hc, hp⟩ := List.ne_and_not_mem_of_not_mem_cons h
    have hstep : unescape? (c :: (p ++ z)) = (unescape? (p ++ z)).map (c :: ·) := by
      simp [unescape?, hc.symm]
    rw [List.cons_append, hstep, ih hp, Option.map_map]
    rfl

/-- A character whose number has been read is what its spelling stands for. -/
theorem Spelling.unescape? (h : Spelling ['U', 'u'] c p) (hc : numbered? c ≠ some 'x')
    (z : List Char) : unescape? (p ++ z) = (unescape? z).map (c :: ·) := by
  cases h with
  | plain hno =>
    refine unescape?_append (p := [c]) (fun hmem => hno ?_) z
    exact List.mem_singleton.mp hmem ▸ List.mem_cons_self
  | slash hslash => simp [Toml.unescape?, escapedChar?, hslash]
  | letter hd hletter => simp [Toml.unescape?, hletter]
  | @number ℓ hℓ hread =>
    have hmem := mem_of_numbered? hℓ
    simp_all

theorem unescape?_spelt (h : ∀ c ∈ cs, numbered? c ≠ some 'x') (z : List Char) :
    unescape? (cs.flatMap (spelt ['U', 'u']) ++ z) = (unescape? z).map (cs ++ ·) := by
  induction cs with
  | nil => simp
  | cons c cs ih =>
    obtain ⟨hc, hcs⟩ := List.forall_mem_cons.mp h
    rw [List.flatMap_cons, List.append_assoc, (spelling _ c).unescape? hc, ih hcs, Option.map_map]
    rfl

end Escapes

section Marks

/-- No mark of a written text closes the value, the one behind the text does. -/
theorem closedWell_written (cs : List Char) (hmark : '"' ∉ p) (hodd : oddBehind false p = false) :
    closedWell false false 0
      (splitOn '"' (p ++ (cs.flatMap (quotedChar '"') ++ ['"']))) = true := by
  induction cs generalizing p with
  | nil =>
    have hpieces : splitOn '"' (p ++ ['"']) = [p, []] := by
      rw [splitOn_append_cons, splitOn_of_not_mem hmark]
      rfl
    rw [List.flatMap_nil, List.nil_append, hpieces]
    cases p <;> simp [closedWell, endsInOddBackslash_eq, hodd]
  | cons c cs ih =>
    rw [List.flatMap_cons, List.append_assoc]
    by_cases hc : c = '"'
    · have hquoted : quotedChar '"' c = ['\\', '"'] := by rw [hc]; rfl
      have hslash : '"' ∉ p ++ ['\\'] := by simpa using hmark
      have hpieces : splitOn '"' (p ++ (quotedChar '"' c ++
          (cs.flatMap (quotedChar '"') ++ ['"']))) =
          (p ++ ['\\']) :: splitOn '"' ([] ++ (cs.flatMap (quotedChar '"') ++ ['"'])) := by
        have happend : p ++ (quotedChar '"' c ++ (cs.flatMap (quotedChar '"') ++ ['"'])) =
            (p ++ ['\\']) ++ '"' :: (cs.flatMap (quotedChar '"') ++ ['"']) := by
          simp [hquoted]
        rw [happend, splitOn_append_cons, splitOn_of_not_mem hslash]
        rfl
      have hends : endsInOddBackslash (p ++ ['\\']) = true := by
        rw [endsInOddBackslash_eq, oddBehind_append, hodd]
        rfl
      rw [hpieces]
      simpa [closedWell, hends] using ih (p := []) (by simp) rfl
    · have hspelling := spelling_quoted c
      rw [← List.append_assoc]
      refine ih ?_ ?_
      · simpa [hmark] using hspelling.mark_not_mem hc
      · rw [oddBehind_append, hodd, hspelling.oddBehind]

/-- Two marks at the start of a value are those of an empty text. -/
theorem splitOn_written (h : cs ≠ []) :
    ∃ w ws, splitOn '"' (cs.flatMap (quotedChar '"') ++ ['"']) = w :: ws ∧ w ≠ [] := by
  cases cs with
  | nil => exact absurd rfl h
  | cons c cs =>
    obtain ⟨d, q, hq, hd⟩ := (spelling_quoted c).exists_cons
    have hne : d ≠ '"' := by
      by_cases hc : c = '"'
      · have hquoted : quotedChar '"' c = ['\\', '"'] := by rw [hc]; rfl
        rw [hquoted] at hq
        exact (List.cons.inj hq).1 ▸ by decide
      · rcases hd with rfl | rfl
        · exact hc
        · decide
    rw [List.flatMap_cons, hq, List.cons_append, List.cons_append, splitOn_cons_of_ne hne]
    cases hs : splitOn '"' (q ++ cs.flatMap (quotedChar '"') ++ ['"']) with
    | nil => exact absurd hs (splitOn_ne_nil _ _)
    | cons w ws => exact ⟨d :: w, ws, rfl, by simp⟩

/-- No text follows the mark that closes a value. -/
def isClosed (value : List Char) : Bool :=
  match splitOn '"' (value.drop 1) with
  | [] :: [] :: rest => closedWell true false 0 rest
  | pieces => closedWell false false 0 pieces

/-- What the passes over its escapes leave of a value. -/
def unescaped? (value : List Char) : Option (List Char) :=
  ((readNumbers? 'u' 4 value).bind (readNumbers? 'U' 8)).bind unescape?

theorem readString?_eq (value : List Char) :
    readString? '"' value =
      if isClosed value && knownFrom value then
        (unescaped? value).map fun out => String.ofList (unquoted '"' out)
      else none := by
  have hpasses : (do
      let value ← readNumbers? 'u' 4 value
      let value ← readNumbers? 'U' 8 value
      let value ← unescape? value
      some (String.ofList (unquoted '"' value))) =
      (unescaped? value).map fun out => String.ofList (unquoted '"' out) := by
    rw [unescaped?]
    cases readNumbers? 'u' 4 value with
    | none => rfl
    | some first =>
      cases hsecond : readNumbers? 'U' 8 first with
      | none => simp [hsecond]
      | some second => cases hthird : unescape? second <;> simp [hsecond, hthird]
  rw [readString?, isClosed, knownFrom]
  simp only [hpasses]
  generalize splitOn '"' (value.drop 1) = pieces
  generalize escapesKnown false ((splitOn '\\' value).drop 1) = known
  have hchoice : ∀ closed : Bool, (if (!closed) = true then none
      else if (!known) = true then none
        else (unescaped? value).map fun out => String.ofList (unquoted '"' out)) =
      if closed && known then (unescaped? value).map fun out => String.ofList (unquoted '"' out)
      else none := by
    intro closed
    cases closed <;> cases known <;> rfl
  rcases pieces with _ | ⟨_ | ⟨_, _⟩, _ | ⟨_ | ⟨_, _⟩, _⟩⟩ <;> exact hchoice _

theorem isClosed_written (cs : List Char) :
    isClosed ('"' :: (cs.flatMap (quotedChar '"') ++ ['"'])) = true := by
  by_cases hcs : cs = []
  · subst hcs
    rfl
  · have hclosed := closedWell_written (p := []) cs (by simp) rfl
    obtain ⟨w, ws, hpieces, hw⟩ := splitOn_written hcs
    obtain ⟨d, w, rfl⟩ := List.exists_cons_of_ne_nil hw
    rw [List.nil_append, hpieces] at hclosed
    rw [isClosed, List.drop_succ_cons, List.drop_zero, hpieces]
    exact hclosed

/-- A written value is read by the passes over its escapes. -/
theorem readString?_written (h : ∀ c ∈ cs, numbered? c ≠ some 'x') :
    readString? '"' ('"' :: (cs.flatMap (quotedChar '"') ++ ['"'])) =
      (unescaped? ('"' :: (cs.flatMap (quotedChar '"') ++ ['"']))).map
        fun out => String.ofList (unquoted '"' out) := by
  rw [readString?_eq, isClosed_written, knownFrom_cons (by decide), knownFrom_written h]
  rfl

theorem length_inside (n : Nat) (cs : List Char) : (inside n cs).length = cs.length - n - n := by
  simp only [inside, List.length_take, List.length_drop]
  omega

theorem inside_one (c d : Char) (cs : List Char) : inside 1 (c :: (cs ++ [d])) = cs := by
  simp [inside]

/-- The marks around a text are taken off, unless it starts as if there were three of them. -/
theorem unquoted_eq_iff :
    unquoted '"' ('"' :: (cs ++ ['"'])) = cs ↔ cs ≠ ['"'] ∧ ¬ ['"', '"'] <+: cs := by
  have htripled : ∀ n, cs.length = n + 1 →
      inside 1 (inside 2 ('"' :: (cs ++ ['"']))) ≠ cs := by
    intro n hn he
    have hlength := congrArg List.length he
    simp only [length_inside, List.length_cons, List.length_append, List.length_nil] at hlength
    omega
  match cs with
  | [] => decide
  | [c] =>
    by_cases hc : c = '"'
    · subst hc; decide
    · simp [unquoted, hc, inside]
  | c :: d :: cs =>
    have hmarks : ['"', '"'] <+: c :: d :: cs ↔ c = '"' ∧ d = '"' := by
      simp [List.cons_prefix_cons, eq_comm]
    have hunquoted : unquoted '"' ('"' :: (c :: d :: cs ++ ['"'])) =
        inside 1 (if c = '"' ∧ d = '"' then inside 2 ('"' :: (c :: d :: cs ++ ['"']))
          else '"' :: (c :: d :: cs ++ ['"'])) := by
      by_cases hc : c = '"'
      · subst hc; simp [unquoted]
      · simp [unquoted, hc]
    rw [hmarks, hunquoted]
    split
    · next hc => exact ⟨fun he => absurd he (htripled _ rfl), fun h => absurd hc h.2⟩
    · next hc => exact ⟨fun _ => ⟨by simp, hc⟩, fun _ => inside_one '"' '"' (c :: d :: cs)⟩

end Marks

/-- A text that its value in a file gives back: no character of it is written with two digits and
no backslash stands before an `x`; the other escapes by number come before no backslash that stands
before their letter; and it starts with no marks that would be taken for a third one. -/
structure IsKept (cs : List Char) : Prop where
  wide : ∀ c ∈ cs, numbered? c ≠ some 'x'
  bare : contains ['\\', 'x'] cs = false
  short : InOrder 'u' cs
  long : InOrder 'U' cs
  marks : cs ≠ ['"'] ∧ ¬ ['"', '"'] <+: cs

theorem isKept_iff (cs : List Char) : IsKept cs ↔
    cs.all (fun c => numbered? c ≠ some 'x') = true ∧ contains ['\\', 'x'] cs = false ∧
      InOrder 'u' cs ∧ InOrder 'U' cs ∧ cs ≠ ['"'] ∧ ¬ ['"', '"'] <+: cs := by
  rw [List.all_iff_forall_prop]
  exact ⟨fun h => ⟨h.wide, h.bare, h.short, h.long, h.marks⟩,
    fun ⟨hwide, hbare, hshort, hlong, hmarks⟩ => ⟨hwide, hbare, hshort, hlong, hmarks⟩⟩

instance (cs : List Char) : Decidable (IsKept cs) :=
  decidable_of_iff _ (isKept_iff cs).symm

theorem unescaped?_written (hwide : ∀ c ∈ cs, numbered? c ≠ some 'x') (hshort : InOrder 'u' cs)
    (hlong : InOrder 'U' cs) :
    unescaped? ('"' :: (cs.flatMap (quotedChar '"') ++ ['"'])) = some ('"' :: (cs ++ ['"'])) := by
  have hfirst : readNumbers? 'u' 4 _ = _ :=
    readNumbers?_spelt [] (by decide) (by decide) hshort
  have hsecond : readNumbers? 'U' 8 _ = _ :=
    readNumbers?_spelt ['u'] (by decide) (by decide) hlong
  have hletters := unescape?_append (p := ['"']) (by decide)
    (cs.flatMap (spelt ['U', 'u']) ++ ['"'])
  rw [unescape?_spelt hwide] at hletters
  rw [unescaped?, quotedChar_eq_spelt, hfirst, Option.bind_some, hsecond, Option.bind_some]
  exact hletters

theorem readString?_of_isKept (h : IsKept cs) :
    readString? '"' ('"' :: (cs.flatMap (quotedChar '"') ++ ['"'])) = some (String.ofList cs) := by
  rw [readString?_written h.wide, unescaped?_written h.wide h.short h.long, Option.map_some,
    unquoted_eq_iff.mpr h.marks]

end ApiStubs.Toml
