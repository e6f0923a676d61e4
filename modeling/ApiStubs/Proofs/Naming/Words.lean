import ApiStubs.Target.Naming

/-! # Words of a name

The words of a name are its longest runs of letters and numbers. Joined by single underscores they
are what is left of the name once underscores are squeezed and cut off at both ends.
-/

namespace ApiStubs.Naming

/-- The longest runs of letters and numbers of a text, in order. -/
def words (cs : List Char) : List (List Char) :=
  (cs.splitOnP fun c => !Character.isAlphanumeric c).filter (!·.isEmpty)

/-- Words with single underscores between them. -/
def joined (ws : List (List Char)) : List Char :=
  ['_'].intercalate ws

/-- A text without the underscores at its end. -/
def trimEnd (cs : List Char) : List Char :=
  (cs.reverse.dropWhile (· == '_')).reverse

variable {c : Char} {cs w : List Char} {ws vs : List (List Char)}

theorem isAlphanumeric_underscore : Character.isAlphanumeric '_' = false := by
  decide

theorem alphanumeric_concat (hw : ∀ c ∈ w, Character.isAlphanumeric c = true)
    (hc : Character.isAlphanumeric c = true) :
    ∀ a ∈ w ++ [c], Character.isAlphanumeric a = true := by
  simpa [or_imp, forall_and] using ⟨hw, hc⟩

section Words

@[simp] theorem words_nil : words [] = [] := by
  simp [words, List.splitOnP_nil]

theorem words_append_cons (hc : Character.isAlphanumeric c = false) (cs ds : List Char) :
    words (cs ++ c :: ds) = words cs ++ words ds := by
  rw [words, List.splitOnP_append_cons cs ds (by simp [hc]), List.filter_append]
  rfl

theorem words_append_underscore (cs ds : List Char) :
    words (cs ++ '_' :: ds) = words cs ++ words ds :=
  words_append_cons isAlphanumeric_underscore cs ds

theorem words_underscore (cs : List Char) : words ('_' :: cs) = words cs :=
  words_append_underscore [] cs

theorem words_of_alphanumeric (hw : ∀ c ∈ w, Character.isAlphanumeric c = true) (hne : w ≠ []) :
    words w = [w] := by
  rw [words, List.splitOnP_eq_singleton fun c hc => by simp [hw c hc]]
  simp [hne]

/-- The words of a text hold its letters and numbers and nothing else. -/
theorem flatten_words (cs : List Char) :
    (words cs).flatten = cs.filter Character.isAlphanumeric := by
  rw [words, List.flatten_filter_not_isEmpty]
  induction cs with
  | nil => rfl
  | cons c cs ih =>
    obtain ⟨w, ws, hws⟩ := List.exists_cons_of_ne_nil
      (List.splitOnP_ne_nil (fun c => !Character.isAlphanumeric c) cs)
    rw [List.splitOnP_cons_eq_if_modifyHead]
    rw [hws] at ih ⊢
    cases hc : Character.isAlphanumeric c <;> simp [hc, ← ih]

theorem plain_of_alphanumeric (hc : Character.isAlphanumeric c = true) : Snake.plain c = c := by
  simp [Snake.plain, Character.isWord, hc]

theorem plain_of_not_alphanumeric (hc : Character.isAlphanumeric c = false) :
    Snake.plain c = '_' := by
  by_cases he : c = '_' <;> simp [Snake.plain, Character.isWord, hc, he]

theorem words_map_plain (cs : List Char) : words (cs.map Snake.plain) = words cs := by
  have hsplit : (cs.map Snake.plain).splitOnP (fun c => !Character.isAlphanumeric c) =
      cs.splitOnP fun c => !Character.isAlphanumeric c := by
    induction cs with
    | nil => rfl
    | cons c cs ih =>
      rw [List.map_cons, List.splitOnP_cons_eq_if_modifyHead,
        List.splitOnP_cons_eq_if_modifyHead, ih]
      cases hc : Character.isAlphanumeric c with
      | true => simp [plain_of_alphanumeric hc, hc]
      | false => simp [plain_of_not_alphanumeric hc, isAlphanumeric_underscore]
  rw [words, hsplit, words]

theorem words_append_halve (w cs : List Char) : words (w ++ Snake.halve cs) = words (w ++ cs) := by
  unfold Snake.halve
  fun_induction Text.replacePair '_' '_' '_' cs generalizing w with
  | case1 x y rest h ih =>
    obtain ⟨rfl, rfl⟩ := h
    rw [words_append_underscore, words_append_underscore, words_underscore]
    exact congrArg (words w ++ ·) (ih [])
  | case2 x y rest h ih => simpa using ih (w ++ [x])
  | case3 cs h => rfl

theorem words_squeeze (cs : List Char) : words (Snake.squeeze cs) = words cs := by
  fun_induction Snake.squeeze cs with
  | case1 cs h ih => exact ih.trans (words_append_halve [] cs)
  | case2 cs h => rfl

end Words

section Trimming

theorem contains_squeeze (cs : List Char) :
    Text.contains ['_', '_'] (Snake.squeeze cs) = false := by
  fun_induction Snake.squeeze cs with
  | case1 cs h ih => exact ih
  | case2 cs h => exact Bool.not_eq_true _ ▸ h

theorem dropWhile_of_head?_ne (h : cs.head? ≠ some '_') : cs.dropWhile (· == '_') = cs := by
  cases cs with
  | nil => rfl
  | cons c cs => exact List.dropWhile_cons_of_neg (by simpa using h)

theorem trimEnd_append (cs ds : List Char) :
    trimEnd (cs ++ ds) = if trimEnd ds = [] then trimEnd cs else cs ++ trimEnd ds := by
  unfold trimEnd
  rw [List.reverse_append, List.dropWhile_append]
  by_cases h : ds.reverse.dropWhile (· == '_') = [] <;> simp [h]

theorem trimEnd_of_alphanumeric (hw : ∀ c ∈ w, Character.isAlphanumeric c = true) :
    trimEnd w = w := by
  have hhead : w.reverse.head? ≠ some '_' := by
    intro h
    have hc := hw '_' (List.mem_reverse.mp (List.mem_of_head? h))
    rw [isAlphanumeric_underscore] at hc
    cases hc
  rw [trimEnd, dropWhile_of_head?_ne hhead, List.reverse_reverse]

theorem joined_eq_nil_iff (hws : ∀ w ∈ ws, w ≠ []) : joined ws = [] ↔ ws = [] := by
  match ws with
  | [] => simp [joined]
  | [w] => simpa [joined] using hws w
  | w :: v :: ws => simp [joined, List.intercalate_cons_cons]

theorem joined_cons (hws : ∀ v ∈ ws, v ≠ []) (w : List Char) :
    joined (w :: ws) = if joined ws = [] then w else w ++ '_' :: joined ws := by
  match ws with
  | [] => simp [joined]
  | v :: ws =>
    have hne : joined (v :: ws) ≠ [] := fun h => by simpa using (joined_eq_nil_iff hws).mp h
    simp only [hne, if_false]
    simp [joined, List.intercalate_cons_cons]

theorem ne_nil_of_mem_words (h : w ∈ words cs) : w ≠ [] := by
  simpa using (List.mem_filter.mp h).2

theorem contains_tail (h : Text.contains ['_', '_'] (c :: cs) = false) :
    Text.contains ['_', '_'] cs = false := by
  rw [Text.contains, Bool.or_eq_false_iff] at h
  exact h.2

theorem head?_ne_underscore (h : Text.contains ['_', '_'] ('_' :: cs) = false) :
    cs.head? ≠ some '_' := by
  cases cs with
  | nil => simp
  | cons c cs =>
    rw [Text.contains_pair_cons, Bool.or_eq_false_iff] at h
    simpa using h.1

/-- Reading on from a piece of a word; the piece may be empty when a word starts here. -/
theorem trimEnd_append_eq_joined (hcs : ∀ c ∈ cs, c = '_' ∨ Character.isAlphanumeric c = true)
    (hsingle : Text.contains ['_', '_'] cs = false)
    (hw : ∀ c ∈ w, Character.isAlphanumeric c = true) (hhead : w = [] → cs.head? ≠ some '_') :
    trimEnd (w ++ cs) = joined (words (w ++ cs)) := by
  induction cs generalizing w with
  | nil =>
    rw [List.append_nil, trimEnd_of_alphanumeric hw]
    by_cases hne : w = []
    · simp [hne, joined]
    · simp [words_of_alphanumeric hw hne, joined]
  | cons c cs ih =>
    have htail := fun a ha => hcs a (List.mem_cons_of_mem c ha)
    rcases hcs c List.mem_cons_self with rfl | hc
    · have hne : w ≠ [] := fun h => hhead h rfl
      have hrest : trimEnd cs = joined (words cs) :=
        ih (w := []) htail (contains_tail hsingle) (by simp) fun _ => head?_ne_underscore hsingle
      have hstop : trimEnd ('_' :: cs) =
          if trimEnd cs = [] then [] else '_' :: trimEnd cs := trimEnd_append ['_'] cs
      rw [words_append_underscore, words_of_alphanumeric hw hne, List.singleton_append,
        joined_cons fun v => ne_nil_of_mem_words, trimEnd_append, hstop, hrest]
      by_cases h : joined (words cs) = [] <;> simp [h, trimEnd_of_alphanumeric hw]
    · have hw' := alphanumeric_concat hw hc
      simpa using ih htail (contains_tail hsingle) hw' (by simp)

theorem trimWhile_eq_joined (hcs : ∀ c ∈ cs, c = '_' ∨ Character.isAlphanumeric c = true)
    (hsingle : Text.contains ['_', '_'] cs = false) :
    Text.trimWhile (· == '_') cs = joined (words cs) := by
  by_cases hstart : cs.head? = some '_'
  · obtain ⟨rest, rfl⟩ := List.head?_eq_some_iff.mp hstart
    have hhead := head?_ne_underscore hsingle
    have h := trimEnd_append_eq_joined (w := []) (fun c hc => hcs c (List.mem_cons_of_mem _ hc))
      (contains_tail hsingle) (by simp) fun _ => hhead
    rw [words_underscore]
    simpa [Text.trimWhile, dropWhile_of_head?_ne hhead, trimEnd] using h
  · have h := trimEnd_append_eq_joined (w := []) hcs hsingle (by simp) fun _ => hstart
    simpa [Text.trimWhile, dropWhile_of_head?_ne hstart, trimEnd] using h

theorem mem_of_mem_squeeze (h : c ∈ Snake.squeeze cs) : c ∈ cs := by
  have hhalve : ∀ cs, c ∈ Snake.halve cs → c ∈ cs := by
    intro cs
    unfold Snake.halve
    fun_induction Text.replacePair '_' '_' '_' cs with
    | case1 x y rest hxy ih =>
      intro h
      rcases List.mem_cons.mp h with rfl | h
      · exact List.mem_cons.mpr (.inl hxy.1.symm)
      · exact List.mem_cons_of_mem x (List.mem_cons_of_mem y (ih h))
    | case2 x y rest hxy ih =>
      intro h
      rcases List.mem_cons.mp h with rfl | h
      · exact List.mem_cons_self
      · exact List.mem_cons_of_mem x (ih h)
    | case3 cs hcs => exact id
  fun_induction Snake.squeeze cs with
  | case1 cs hc ih => exact hhalve cs (ih h)
  | case2 cs hc => exact h

theorem trimWhile_squeeze (cs : List Char) :
    Text.trimWhile (· == '_') (Snake.squeeze (cs.map Snake.plain)) = joined (words cs) := by
  rw [trimWhile_eq_joined ?_ (contains_squeeze _), words_squeeze, words_map_plain]
  intro c hc
  obtain ⟨a, _, rfl⟩ := List.mem_map.mp (mem_of_mem_squeeze hc)
  cases ha : Character.isAlphanumeric a with
  | true => exact .inr ((congrArg _ (plain_of_alphanumeric ha)).trans ha)
  | false => exact .inl (plain_of_not_alphanumeric ha)

end Trimming

section Joining

/-- A list of words: none is empty, and all consist of letters and numbers. -/
def AreWords (ws : List (List Char)) : Prop :=
  ∀ w ∈ ws, w ≠ [] ∧ ∀ c ∈ w, Character.isAlphanumeric c = true

theorem words_joined (h : AreWords ws) : words (joined ws) = ws := by
  induction ws with
  | nil => simp [joined]
  | cons w ws ih =>
    obtain ⟨⟨hne, hw⟩, hws⟩ := List.forall_mem_cons.mp h
    rw [joined_cons fun v hv => (hws v hv).1]
    split
    · next hnil =>
      rw [words_of_alphanumeric hw hne, (joined_eq_nil_iff fun v hv => (hws v hv).1).mp hnil]
    · rw [words_append_underscore, words_of_alphanumeric hw hne, ih hws]
      rfl

theorem areWords_words_of_alphanumeric (hw : ∀ c ∈ w, Character.isAlphanumeric c = true) :
    AreWords (words w) := by
  by_cases hne : w = []
  · simp [hne, AreWords]
  · simpa [words_of_alphanumeric hw hne, AreWords] using ⟨hne, hw⟩

theorem areWords_words_append (hw : ∀ c ∈ w, Character.isAlphanumeric c = true) :
    AreWords (words (w ++ cs)) := by
  induction cs generalizing w with
  | nil =>
    rw [List.append_nil]
    exact areWords_words_of_alphanumeric hw
  | cons c cs ih =>
    cases hc : Character.isAlphanumeric c with
    | false =>
      rw [words_append_cons hc]
      exact List.forall_mem_append.mpr
        ⟨areWords_words_of_alphanumeric hw, ih (w := []) (by simp)⟩
    | true =>
      have hw' := alphanumeric_concat hw hc
      simpa using ih hw'

theorem areWords_words (cs : List Char) : AreWords (words cs) :=
  areWords_words_append (w := []) (by simp)

/-- A name that starts with a piece of a word has a first word that starts with it. -/
theorem exists_words_append_eq (hw : ∀ c ∈ w, Character.isAlphanumeric c = true) (hne : w ≠ [])
    (cs : List Char) : ∃ u vs, words (w ++ cs) = (w ++ u) :: vs := by
  induction cs generalizing w with
  | nil => exact ⟨[], [], by simpa using words_of_alphanumeric hw hne⟩
  | cons c cs ih =>
    cases hc : Character.isAlphanumeric c with
    | false =>
      rw [words_append_cons hc, words_of_alphanumeric hw hne]
      exact ⟨[], words cs, by simp⟩
    | true =>
      have hw' := alphanumeric_concat hw hc
      obtain ⟨u, vs, h⟩ := ih hw' (by simp)
      exact ⟨c :: u, vs, by simpa using h⟩

theorem prefix_joined_words (hw : ∀ c ∈ w, Character.isAlphanumeric c = true) (hne : w ≠ [])
    (cs : List Char) : w <+: joined (words (w ++ cs)) := by
  obtain ⟨u, vs, h⟩ := exists_words_append_eq hw hne cs
  have hvs : ∀ v ∈ vs, v ≠ [] := fun v hv =>
    ne_nil_of_mem_words (h ▸ List.mem_cons_of_mem _ hv)
  rw [h, joined_cons hvs]
  split
  · exact List.prefix_append w u
  · exact ⟨u ++ '_' :: joined vs, by simp⟩

theorem joined_inj (hw : AreWords ws) (hv : AreWords vs) : joined ws = joined vs ↔ ws = vs := by
  constructor
  · intro h; rw [← words_joined hw, h, words_joined hv]
  · rintro rfl; rfl

end Joining

end ApiStubs.Naming
