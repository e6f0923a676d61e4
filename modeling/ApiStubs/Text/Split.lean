/-!
# Splitting and joining

Cutting a text at a character, replacing short sequences, and joining pieces again.
-/

namespace ApiStubs

namespace Text

/-- The pieces between the occurrences of a character; there is always at least one. -/
def splitOn (sep : Char) : List Char → List (List Char)
  | [] => [[]]
  | c :: cs =>
    if c = sep then [] :: splitOn sep cs
    else
      match splitOn sep cs with
      | [] => [[c]]
      | w :: ws => (c :: w) :: ws

/-- Every occurrence of the pair `a b`, read from the left, becomes `r`. -/
def replacePair (a b r : Char) : List Char → List Char
  | x :: y :: rest =>
    if x = a ∧ y = b then r :: replacePair a b r rest else x :: replacePair a b r (y :: rest)
  | cs => cs

/-- The rest of a text that starts with the given characters. -/
def dropStart? : List Char → List Char → Option (List Char)
  | [], cs => some cs
  | _ :: _, [] => none
  | p :: ps, c :: cs => if p = c then dropStart? ps cs else none

/-- Whether a text ends with the given characters. -/
def endsWith (suffix cs : List Char) : Bool :=
  (dropStart? suffix.reverse cs.reverse).isSome

/-- Whether some characters occur in a text one after the other. -/
def contains (word : List Char) : List Char → Bool
  | [] => word.isEmpty
  | c :: cs => (dropStart? word (c :: cs)).isSome || contains word cs

theorem splitOn_eq (sep : Char) (cs : List Char) : splitOn sep cs = cs.splitOn sep := by
  induction cs with
  | nil => rfl
  | cons c cs ih =>
    obtain ⟨w, ws, hs⟩ := List.exists_cons_of_ne_nil (List.splitOn_ne_nil sep cs)
    rw [splitOn, List.splitOn_cons_eq_if_modifyHead, ih, hs]
    by_cases hc : c = sep <;> simp [hc]

theorem splitOn_ne_nil (c : Char) (cs : List Char) : splitOn c cs ≠ [] := by
  rw [splitOn_eq]
  exact List.splitOn_ne_nil c cs

theorem splitOn_append_cons (c : Char) (cs ds : List Char) :
    splitOn c (cs ++ c :: ds) = splitOn c cs ++ splitOn c ds := by
  simp only [splitOn_eq, List.splitOn_append_cons_self]

theorem splitOn_of_not_mem {c : Char} {cs : List Char} (h : c ∉ cs) :
    splitOn c cs = [cs] := by
  rw [splitOn_eq, List.splitOn_eq_singleton h]

theorem splitOn_cons_self (sep : Char) (cs : List Char) :
    splitOn sep (sep :: cs) = [] :: splitOn sep cs :=
  if_pos rfl

theorem splitOn_cons_of_ne {c sep : Char} (h : c ≠ sep) (cs : List Char) :
    splitOn sep (c :: cs) = (splitOn sep cs).modifyHead (c :: ·) := by
  simp only [splitOn_eq, List.splitOn_cons_eq_if_modifyHead, beq_iff_eq, h, if_false]

theorem splitOn_append_of_not_mem {sep : Char} {p : List Char} (h : sep ∉ p) (cs : List Char) :
    splitOn sep (p ++ cs) = (splitOn sep cs).modifyHead (p ++ ·) := by
  induction p with
  | nil => rw [List.nil_append]; cases splitOn sep cs <;> rfl
  | cons c p ih =>
    obtain ⟨hc, hp⟩ := List.ne_and_not_mem_of_not_mem_cons h
    rw [List.cons_append, splitOn_cons_of_ne hc.symm, ih hp, List.modifyHead_modifyHead]
    rfl

theorem not_mem_of_mem_splitOn {sep : Char} {cs w : List Char} (h : w ∈ splitOn sep cs) :
    sep ∉ w := by
  induction cs generalizing w with
  | nil => simp [List.mem_singleton.mp h]
  | cons c cs ih =>
    by_cases hc : c = sep
    · rw [hc, splitOn_cons_self] at h
      rcases List.mem_cons.mp h with rfl | h
      · exact List.not_mem_nil
      · exact ih h
    · obtain ⟨u, us, hs⟩ := List.exists_cons_of_ne_nil (splitOn_ne_nil sep cs)
      rw [splitOn_cons_of_ne hc, hs] at h
      rw [hs] at ih
      rcases List.mem_cons.mp h with rfl | h
      · exact List.not_mem_cons_of_ne_of_not_mem (Ne.symm hc) (ih List.mem_cons_self)
      · exact ih (List.mem_cons_of_mem u h)

/-- What is left of a text behind given characters. -/
theorem dropStart?_eq_some_iff {p cs rest : List Char} :
    dropStart? p cs = some rest ↔ cs = p ++ rest := by
  induction p generalizing cs with
  | nil => simp [dropStart?, eq_comm]
  | cons a p ih =>
    cases cs with
    | nil => simp [dropStart?]
    | cons c cs =>
      by_cases hac : a = c
      · simp [dropStart?, hac, ih]
      · simp [dropStart?, hac, Ne.symm hac]

theorem isSome_dropStart?_iff {p cs : List Char} : (dropStart? p cs).isSome ↔ p <+: cs := by
  simp only [Option.isSome_iff_exists, dropStart?_eq_some_iff]
  exact exists_congr fun rest => eq_comm

theorem dropStart?_append (p rest : List Char) : dropStart? p (p ++ rest) = some rest :=
  dropStart?_eq_some_iff.mpr rfl

/-- The first character decides that a text starts in another way. -/
theorem dropStart?_eq_none_of_head {c : Char} {cs : List Char} (h : cs.head? ≠ some c)
    (p : List Char) : dropStart? (c :: p) cs = none := by
  refine Option.eq_none_iff_forall_ne_some.mpr fun rest hrest => h ?_
  rw [dropStart?_eq_some_iff.mp hrest]
  rfl

theorem contains_pair_cons (a b x y : Char) (cs : List Char) :
    contains [a, b] (x :: y :: cs) = (decide (x = a ∧ y = b) || contains [a, b] (y :: cs)) := by
  by_cases hx : a = x
  · by_cases hy : b = y <;> simp [contains, dropStart?, hx, hy, eq_comm]
  · simp [contains, dropStart?, hx, eq_comm (a := x)]

theorem length_replacePair_le (a b r : Char) (cs : List Char) :
    (replacePair a b r cs).length ≤ cs.length := by
  fun_induction replacePair a b r cs with
  | case1 x y rest h ih => simp only [List.length_cons]; omega
  | case2 x y rest h ih => simp only [List.length_cons] at ih ⊢; omega
  | case3 cs h => exact Nat.le_refl _

theorem length_replacePair_lt {a b r : Char} {cs : List Char} (h : contains [a, b] cs = true) :
    (replacePair a b r cs).length < cs.length := by
  fun_induction replacePair a b r cs with
  | case1 x y rest hxy ih =>
    have hle := length_replacePair_le a b r rest
    simp only [List.length_cons]
    omega
  | case2 x y rest hxy ih =>
    have hrest : contains [a, b] (y :: rest) = true := by
      simpa [contains_pair_cons, hxy] using h
    have hlt := ih hrest
    simp only [List.length_cons] at hlt ⊢
    omega
  | case3 cs hcs =>
    match cs with
    | [] => simp [contains] at h
    | [x] => simp [contains, dropStart?] at h
    | x :: y :: rest => exact (hcs x y rest rfl).elim

/-- A text without the characters of a class at its two ends. -/
def trimWhile (p : Char → Bool) (cs : List Char) : List Char :=
  ((cs.dropWhile p).reverse.dropWhile p).reverse

/-- The texts one after the other with a separator between them. -/
def joinWith (sep : String) : List String → String
  | [] => ""
  | [s] => s
  | s :: rest => s ++ sep ++ joinWith sep rest

/-- The texts one after the other. -/
def concat : List String → String
  | [] => ""
  | s :: rest => s ++ concat rest

end Text

end ApiStubs
