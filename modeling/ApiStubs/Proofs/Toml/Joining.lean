import ApiStubs.Proofs.Toml.Escapes

/-! # Joining the pieces around escapes

A text with escapes of two digits is taken apart at them and put together again, from the left. In
each step the backslashes of the first piece are halved and one of two joiners takes the place of an
escape.
-/

namespace ApiStubs

open Text Toml

variable {c d : Char} {cs p body first second : List Char} {rest pieces : List (List Char)}
  {n : Nat}

theorem Text.mem_replacePair {a b r : Char} (h : d ∈ replacePair a b r cs) : d = r ∨ d ∈ cs := by
  fun_induction replacePair a b r cs with
  | case1 x y rest hxy ih =>
    rcases List.mem_cons.mp h with rfl | h
    · exact .inl rfl
    · exact (ih h).imp_right fun hd => .tail _ (.tail _ hd)
  | case2 x y rest hxy ih =>
    rcases List.mem_cons.mp h with rfl | h
    · exact .inr List.mem_cons_self
    · exact (ih h).imp_right fun hd => .tail _ hd
  | case3 cs hcs => exact .inr h

namespace Toml

/-- A step of joining. An empty piece in front is passed over, and the next two become one. -/
inductive Joins : List (List Char) → List (List Char) → Prop
  | skip {pieces later : List (List Char)} : Joins pieces later → Joins ([] :: pieces) later
  | join {v next joiner : List Char} {more : List (List Char)} : v ≠ [] →
      joiner ∈ [['x'], ['u', '0', '0']] →
      Joins (v :: next :: more) ((replacePair '\\' '\\' '\\' v ++ joiner ++ next) :: more)

/-- What joining has done that succeeds with more than one piece. -/
theorem exists_joins (h : rejoin? (n + 1) (first :: second :: rest) = some body) :
    ∃ later, Joins (first :: second :: rest) later ∧ rejoin? n later = some body := by
  have hjoiner : ∀ reversed, (if joinsPlainly reversed then ['x'] else ['u', '0', '0']) ∈
      [['x'], ['u', '0', '0']] := by
    intro reversed
    cases joinsPlainly reversed <;> decide
  have hstep : ∀ v next more, (if v.isEmpty = true then none else
      rejoin? n ((replacePair '\\' '\\' '\\' v ++
        (if joinsPlainly (replacePair '\\' '\\' '\\' v).reverse then ['x'] else ['u', '0', '0']) ++
          next) :: more)) = some body →
      ∃ later, Joins (v :: next :: more) later ∧ rejoin? n later = some body := by
    intro v next more h
    split at h
    · cases h
    · next hv => exact ⟨_, .join (by simpa using hv) (hjoiner _), h⟩
  rw [rejoin?] at h
  cases first with
  | nil =>
    cases rest with
    | nil => cases h
    | cons third rest =>
      obtain ⟨later, hjoins, hlater⟩ := hstep _ _ _ h
      exact ⟨later, .skip hjoins, hlater⟩
  | cons c first => exact hstep _ _ _ h

/-- Joining pieces brings in no characters but backslashes and the letters and digits between the
pieces. -/
theorem Joins.mem {later : List (List Char)} (h : Joins pieces later) (hd : d ∈ later.flatten) :
    d ∈ ['\\', 'x', 'u', '0'] ∨ d ∈ pieces.flatten := by
  induction h with
  | skip _ ih => exact ih hd
  | join hv hjoiner =>
    simp only [List.flatten_cons, List.mem_append] at hd ⊢
    rcases hd with ((hd | hd) | hd) | hd
    · rcases mem_replacePair hd with rfl | hd
      · exact .inl List.mem_cons_self
      · exact .inr (.inl hd)
    · refine .inl ?_
      have hjoiners : ∀ joiner ∈ [['x'], ['u', '0', '0']], joiner ⊆ ['\\', 'x', 'u', '0'] := by
        decide
      exact hjoiners _ hjoiner hd
    · exact .inr (.inr (.inl hd))
    · exact .inr (.inr (.inr hd))

/-- What pieces become when they are joined step by step until one is left. -/
inductive JoinsTo : List (List Char) → List Char → Prop
  | last (v : List Char) : JoinsTo [v] v
  | step {pieces later : List (List Char)} {body : List Char} :
      Joins pieces later → JoinsTo later body → JoinsTo pieces body

theorem joinsTo_of_rejoin? (h : rejoin? n pieces = some body) : JoinsTo pieces body := by
  induction n generalizing pieces with
  | zero => cases h
  | succ n ih =>
    match pieces with
    | [] => cases h
    | [v] => cases h; exact .last _
    | first :: second :: rest =>
      obtain ⟨later, hjoins, hlater⟩ := exists_joins h
      exact .step hjoins (ih hlater)

theorem JoinsTo.mem (h : JoinsTo pieces body) (hd : d ∈ body) :
    d ∈ ['\\', 'x', 'u', '0'] ∨ d ∈ pieces.flatten := by
  induction h with
  | last v => exact .inr (by simpa using hd)
  | step hjoins _ ih => exact (ih hd).elim .inl hjoins.mem

/-- The characters between the marks of a written text. -/
def body? (t : String) : Option (List Char) :=
  let pieces := splitAtEscape 'x' (requoted t.toList)
  rejoin? pieces.length pieces

/-- No line is broken in a written text. -/
theorem break_not_mem_body {t : String} (h : body? t = some body) (hd : d ∈ ['\n', '\r']) :
    d ∉ body := by
  intro hmem
  have hplain : ∀ d ∈ ['\n', '\r'], d ∉ ['\\', 'x', 'u', '0'] :=
    List.all_iff_forall_prop.mp (by decide)
  rcases (joinsTo_of_rejoin? h).mem hmem with hjoiner | hpiece
  · exact hplain d hd hjoiner
  · obtain ⟨piece, hpiece, hd'⟩ := List.mem_flatten.mp hpiece
    have htext : d ∈ '\\' :: 'x' :: requoted t.toList := by
      rw [← flatMap_splitAtEscape]
      exact List.mem_flatMap.mpr ⟨piece, hpiece, .tail _ (.tail _ hd')⟩
    rcases List.mem_cons.mp htext with rfl | htext
    · exact absurd hd (by decide)
    rcases List.mem_cons.mp htext with rfl | htext
    · exact absurd hd (by decide)
    exact break_not_mem_requoted hd _ htext

end Toml

end ApiStubs
