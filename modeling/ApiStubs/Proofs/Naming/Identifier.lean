import ApiStubs.Proofs.Naming.Words
import ApiStubs.Target.Python

/-! # Identifiers of arbitrary names

A cleaned name is its words joined by underscores, with one word in front where a name may not
start and a mark behind a keyword. It keeps these words, so cleaning is idempotent, and two names
have one identifier if and only if they have the same words then.
-/

namespace ApiStubs.Naming

variable {name other : String} {c : Char} {cs : List Char} {ws : List (List Char)}

namespace Snake

/-- Words with one more in front if there are none or the first of them starts with a digit. -/
def begun (ws : List (List Char)) : List (List Char) :=
  match ws with
  | (c :: cs) :: ws =>
    if Character.isDigit c then "param".toList :: (c :: cs) :: ws else (c :: cs) :: ws
  | _ => ["param".toList]

/-- A text with a mark behind it if it is a keyword. -/
def unkeyed (cs : List Char) : List Char :=
  if keywords.contains (String.ofList cs) then cs ++ ['_'] else cs

theorem started_joined (h : AreWords ws) : started (joined ws) = joined (begun ws) := by
  match ws with
  | [] => simp [joined, started, begun]
  | [] :: ws => exact absurd rfl (h [] List.mem_cons_self).1
  | (c :: cs) :: ws =>
    have hne : joined ((c :: cs) :: ws) ≠ [] := fun hnil => by
      simpa using (joined_eq_nil_iff fun w hw => (h w hw).1).mp hnil
    have hhead : ∃ rest, joined ((c :: cs) :: ws) = c :: rest := by
      rw [joined_cons fun v hv => (h v (List.mem_cons_of_mem _ hv)).1]
      split
      · exact ⟨cs, rfl⟩
      · exact ⟨cs ++ '_' :: joined ws, rfl⟩
    obtain ⟨rest, hrest⟩ := hhead
    by_cases hd : Character.isDigit c = true
    · have hparam : joined (begun ((c :: cs) :: ws)) =
          "param".toList ++ '_' :: joined ((c :: cs) :: ws) := by
        rw [begun, if_pos hd, joined_cons fun v hv => (h v hv).1, if_neg hne]
      rw [hparam, hrest, started, if_pos hd]
      rfl
    · rw [hrest, started, if_neg hd, begun, if_neg hd, hrest]

theorem toList_clean (name : String) :
    (clean name).toList = unkeyed (joined (begun (words name.toList))) := by
  rw [clean, trimWhile_squeeze, started_joined (areWords_words _), unkeyed]
  split <;> simp

theorem areWords_param : AreWords ["param".toList] := by
  intro w hw
  rw [List.mem_singleton.mp hw, ← List.all_eq_true]
  decide

theorem areWords_begun (h : AreWords ws) : AreWords (begun ws) := by
  unfold begun
  split
  · split
    · exact List.forall_mem_cons.mpr ⟨areWords_param _ (List.mem_singleton_self _), h⟩
    · exact h
  · exact areWords_param

theorem begun_ne_nil (ws : List (List Char)) : begun ws ≠ [] := by
  unfold begun
  split
  · split <;> simp
  · simp

theorem begun_eq_or (ws : List (List Char)) :
    begun ws = ws ∨ ∃ vs, begun ws = "param".toList :: vs := by
  unfold begun
  split
  · split
    · exact .inr ⟨_, rfl⟩
    · exact .inl rfl
  · exact .inr ⟨_, rfl⟩

theorem begun_begun (ws : List (List Char)) : begun (begun ws) = begun ws := by
  have hparam : ∀ vs, begun ("param".toList :: vs) = "param".toList :: vs := fun vs => by
    have hp : Character.isDigit 'p' = false := by decide
    simp [begun, hp]
  match ws with
  | [] => exact hparam []
  | [] :: ws => exact hparam []
  | (c :: cs) :: ws =>
    by_cases hd : Character.isDigit c = true
    · rw [begun, if_pos hd, hparam]
    · have hstay : begun ((c :: cs) :: ws) = (c :: cs) :: ws := by rw [begun, if_neg hd]
      rw [hstay, hstay]

theorem words_unkeyed (cs : List Char) : words (unkeyed cs) = words cs := by
  unfold unkeyed
  split
  · rw [words_append_underscore, words_nil, List.append_nil]
  · rfl

theorem words_clean (name : String) : words (clean name).toList = begun (words name.toList) := by
  rw [toList_clean, words_unkeyed, words_joined (areWords_begun (areWords_words _))]

theorem clean_clean (name : String) : clean (clean name) = clean name := by
  refine String.toList_inj.mp ?_
  rw [toList_clean, words_clean, begun_begun, ← toList_clean]

theorem clean_eq_iff :
    clean name = clean other ↔ begun (words name.toList) = begun (words other.toList) := by
  constructor
  · intro h; rw [← words_clean, h, words_clean]
  · intro h; rw [← String.toList_inj, toList_clean, h, toList_clean]

theorem isWord_of_mem_joined (h : AreWords ws) (hc : c ∈ joined ws) :
    Character.isWord c = true := by
  induction ws with
  | nil => simp [joined] at hc
  | cons w ws ih =>
    obtain ⟨⟨-, hw⟩, hws⟩ := List.forall_mem_cons.mp h
    rw [joined_cons fun v hv => (hws v hv).1] at hc
    split at hc
    · simp [Character.isWord, hw c hc]
    · rcases List.mem_append.mp hc with hc | hc
      · simp [Character.isWord, hw c hc]
      · rcases List.mem_cons.mp hc with rfl | hc
        · simp [Character.isWord]
        · exact ih hws hc

theorem isWord_of_mem_clean (hc : c ∈ (clean name).toList) : Character.isWord c = true := by
  rw [toList_clean, unkeyed] at hc
  have hjoined := fun h : c ∈ joined (begun (words name.toList)) =>
    isWord_of_mem_joined (areWords_begun (areWords_words _)) h
  split at hc
  · rcases List.mem_append.mp hc with hc | hc
    · exact hjoined hc
    · rw [List.mem_singleton.mp hc]; decide
  · exact hjoined hc

/-- An identifier starts with a letter or a number, never with an underscore. -/
theorem exists_clean_eq_cons (name : String) :
    ∃ c cs, (clean name).toList = c :: cs ∧ Character.isAlphanumeric c = true := by
  have hwords := areWords_begun (areWords_words name.toList)
  obtain ⟨w, vs, hws⟩ := List.exists_cons_of_ne_nil (begun_ne_nil (words name.toList))
  rw [hws] at hwords
  obtain ⟨⟨hne, hw⟩, hvs⟩ := List.forall_mem_cons.mp hwords
  obtain ⟨c, u, rfl⟩ := List.exists_cons_of_ne_nil hne
  have hhead : ∃ rest, joined ((c :: u) :: vs) = c :: rest := by
    rw [joined_cons fun v hv => (hvs v hv).1]
    split
    · exact ⟨u, rfl⟩
    · exact ⟨u ++ '_' :: joined vs, rfl⟩
  obtain ⟨rest, hrest⟩ := hhead
  rw [toList_clean, hws, hrest, unkeyed]
  split
  · exact ⟨c, rest ++ ['_'], rfl, hw c List.mem_cons_self⟩
  · exact ⟨c, rest, rfl, hw c List.mem_cons_self⟩

/-- A file is named after the name itself or after its identifier. -/
theorem unitName_eq_or (name : String) : unitName name = name ∨ unitName name = clean name := by
  unfold unitName
  split
  · exact .inl rfl
  · exact .inr rfl

theorem unitName_ne_empty (name : String) : unitName name ≠ "" := by
  unfold unitName
  split
  · rintro rfl; contradiction
  · intro h
    obtain ⟨c, cs, hcs, -⟩ := exists_clean_eq_cons name
    simp [h] at hcs

/-- What a file name may be made of. -/
theorem mem_unitName (hc : c ∈ (unitName name).toList) : Character.isWord c = true ∨
    Character.isIdentifierStart c = true ∨ Character.isIdentifierContinue c = true := by
  unfold unitName at hc
  split at hc
  · next h =>
    match hcs : name.toList with
    | [] => simp [hcs] at hc
    | d :: ds =>
      rw [hcs, Character.isIdentifier, Bool.and_eq_true, List.all_eq_true] at h
      rcases List.mem_cons.mp (hcs ▸ hc) with rfl | hc
      · exact .inr (.inl h.1)
      · exact .inr (.inr (h.2 c hc))
  · exact .inl (isWord_of_mem_clean hc)

theorem unitName_eq_init_iff : unitName name = "__init__" ↔ name = "__init__" := by
  constructor
  · intro h
    rcases unitName_eq_or name with hn | hn
    · exact hn ▸ h
    · obtain ⟨c, cs, hcs, hc⟩ := exists_clean_eq_cons name
      have hinit : c :: cs = "__init__".toList := by rw [← hcs, ← hn, h]
      obtain rfl : c = '_' := (List.cons.inj hinit).1
      rw [isAlphanumeric_underscore] at hc
      cases hc
  · rintro rfl; decide +kernel

/-- Two names have one file if they are equal or are both respelled to one identifier. -/
theorem unitName_eq_iff : unitName name = unitName other ↔ name = other ∨
    (unitName name = clean name ∧ unitName other = clean other ∧
      begun (words name.toList) = begun (words other.toList)) := by
  rw [← clean_eq_iff]
  constructor
  · intro h
    rcases unitName_eq_or name with hn | hn <;> rcases unitName_eq_or other with ho | ho
    · exact .inl (hn.symm.trans (h.trans ho))
    · have hclean : clean name = name := by rw [← hn, h, ho, clean_clean]
      exact .inr ⟨hn.trans hclean.symm, ho, by rw [hclean, ← ho, ← h, hn]⟩
    · have hclean : clean other = other := by rw [← ho, ← h, hn, clean_clean]
      exact .inr ⟨hn, ho.trans hclean.symm, by rw [hclean, ← hn, h, ho]⟩
    · exact .inr ⟨hn, ho, hn.symm.trans (h.trans ho)⟩
  · rintro (rfl | ⟨hn, ho, h⟩)
    · rfl
    · rw [hn, ho, h]

end Snake

namespace Marked

/-- A name that is an identifier as it stands: letters, numbers and underscores, no digit in front,
and no keyword. -/
def IsPlain (name : String) : Prop :=
  (∀ c ∈ name.toList, Character.isWord c = true) ∧
    (∀ c ∈ name.toList.head?, Character.isDigit c = false) ∧ name ∉ keywords

theorem plain_eq_self_iff : plain c = c ↔ Character.isWord c = true := by
  by_cases h : Character.isWord c = true
  · simp [plain, h]
  · have hne : c ≠ '_' := fun he => h (by simp [he, Character.isWord])
    simp [plain, h, hne.symm]

theorem isWord_plain (c : Char) : Character.isWord (plain c) = true := by
  unfold plain
  split
  · assumption
  · decide

/-- A name of letters and numbers with no digit in front. -/
def IsUnshared (name : String) : Prop :=
  (∀ c ∈ name.toList, Character.isAlphanumeric c = true) ∧
    ∀ c ∈ name.toList.head?, Character.isDigit c = false

/-- A name with other characters turned into underscores and with one in front of a digit. -/
def spelling (name : String) : List Char :=
  started (name.toList.map plain)

theorem isWord_of_mem_spelling (hc : c ∈ spelling name) : Character.isWord c = true := by
  have hplain : ∀ c ∈ name.toList.map plain, Character.isWord c = true :=
    List.forall_mem_map.mpr fun c _ => isWord_plain c
  unfold spelling started at hc
  split at hc
  · cases hc
  · split at hc
    · rcases List.mem_cons.mp hc with rfl | hc
      · decide
      · exact hplain c hc
    · exact hplain c hc

theorem identifier_eq_or (name : String) :
    (String.ofList (spelling name) ∈ keywords ∧
      identifier name = "@" ++ String.ofList (spelling name)) ∨
    (String.ofList (spelling name) ∉ keywords ∧
      identifier name = String.ofList (spelling name)) := by
  by_cases hkey : String.ofList (spelling name) ∈ keywords
  · exact .inl ⟨hkey, if_pos (List.contains_iff_mem.mpr hkey)⟩
  · exact .inr ⟨hkey, if_neg fun h => hkey (List.contains_iff_mem.mp h)⟩

/-- What an identifier may be made of. -/
theorem mem_identifier (hc : c ∈ (identifier name).toList) :
    c = '@' ∨ Character.isWord c = true := by
  rcases identifier_eq_or name with ⟨-, he⟩ | ⟨-, he⟩
  · rw [he, String.toList_append] at hc
    rcases List.mem_append.mp hc with hc | hc
    · exact .inl (List.mem_singleton.mp hc)
    · exact .inr (isWord_of_mem_spelling (by simpa using hc))
  · rw [he, String.toList_ofList] at hc
    exact .inr (isWord_of_mem_spelling hc)

theorem marked_ne_spelling :
    "@" ++ String.ofList (spelling name) ≠ String.ofList (spelling other) := by
  intro h
  have hlist : '@' :: spelling name = spelling other := by
    simpa using congrArg String.toList h
  have hmark : '@' ∈ spelling other := hlist ▸ List.mem_cons_self
  exact absurd (isWord_of_mem_spelling hmark) (by decide)

/-- Two names have one identifier if and only if they have one spelling, since the mark in front of
a keyword is in no spelling. -/
theorem identifier_eq_iff :
    identifier name = identifier other ↔ spelling name = spelling other := by
  constructor
  · intro h
    rcases identifier_eq_or name with ⟨-, hn⟩ | ⟨-, hn⟩ <;>
      rcases identifier_eq_or other with ⟨-, ho⟩ | ⟨-, ho⟩ <;> rw [hn, ho] at h
    · exact String.ofList_injective ((String.append_right_inj _).mp h)
    · exact absurd h marked_ne_spelling
    · exact absurd h.symm marked_ne_spelling
    · exact String.ofList_injective h
  · intro h
    have he : ∀ name, identifier name = if keywords.contains (String.ofList (spelling name)) then
        "@" ++ String.ofList (spelling name) else String.ofList (spelling name) := fun _ => rfl
    rw [he, he, h]

theorem map_plain_eq_self_iff : cs.map plain = cs ↔ ∀ c ∈ cs, Character.isWord c = true := by
  have h := List.map_inj_left (f := plain) (g := id) (l := cs)
  rw [List.map_id] at h
  simp only [h, id_eq, plain_eq_self_iff]

/-- A name of letters, numbers and underscores with no digit in front is spelled as it stands. -/
theorem spelling_eq_self (hword : ∀ c ∈ name.toList, Character.isWord c = true)
    (hdigit : ∀ c ∈ name.toList.head?, Character.isDigit c = false) :
    spelling name = name.toList := by
  rw [spelling, map_plain_eq_self_iff.mpr hword]
  match hcs : name.toList with
  | [] => rfl
  | c :: cs => exact if_neg (by simp [hdigit c (by simp [hcs])])

theorem underscore_not_head_keyword : ∀ k ∈ keywords, k.toList.head? ≠ some '_' := by
  decide

/-- The mark in front of a keyword would itself have become an underscore. -/
theorem not_marked_eq_self
    (hkey : String.ofList (started (name.toList.map plain)) ∈ keywords) :
    "@" ++ String.ofList (started (name.toList.map plain)) ≠ name := by
  intro h
  have hhead : name.toList = '@' :: started (name.toList.map plain) := by
    have hlist := congrArg String.toList h
    simpa using hlist.symm
  refine underscore_not_head_keyword _ hkey ?_
  have hplain : plain '@' = '_' := by decide
  have hdigit : Character.isDigit '_' = false := by decide
  rw [String.toList_ofList, hhead]
  simp [started, hplain, hdigit]

theorem identifier_eq_self_iff : identifier name = name ↔ IsPlain name := by
  constructor
  · intro h
    simp only [identifier, List.contains_iff_mem] at h
    split at h
    · next hkey => exact absurd h (not_marked_eq_self hkey)
    · next hkey =>
      have hself : started (name.toList.map plain) = name.toList := by
        rw [← String.toList_inj, String.toList_ofList] at h
        exact h
      match hcs : name.toList with
      | [] => exact ⟨by simp [hcs], by simp [hcs], h ▸ hkey⟩
      | c :: cs =>
        rw [hcs] at hself
        have hdigit : Character.isDigit (plain c) = false := by
          refine Bool.eq_false_iff.mpr fun hd => ?_
          have hlong := congrArg List.length hself
          simp [started, hd] at hlong
        simp only [List.map_cons, started, hdigit, Bool.false_eq_true, if_false] at hself
        have hword : ∀ a ∈ c :: cs, Character.isWord a = true := map_plain_eq_self_iff.mp hself
        refine ⟨hcs ▸ hword, ?_, h ▸ hkey⟩
        simpa [hcs, plain_eq_self_iff.mpr (hword c List.mem_cons_self)] using hdigit
  · rintro ⟨hword, hdigit, hkey⟩
    have hstarted : started (name.toList.map plain) = name.toList := spelling_eq_self hword hdigit
    simp [identifier, hstarted, hkey]

/-- Without an underscore in it, a spelling comes from itself alone. -/
theorem toList_eq_of_spelling_eq (h : spelling name = cs) (hcs : '_' ∉ cs) : name.toList = cs := by
  have hstarted : started (name.toList.map plain) = name.toList.map plain := by
    unfold spelling started at h
    unfold started
    split at h
    · next hnil => exact hnil.symm
    · split at h
      · exact absurd (h ▸ List.mem_cons_self) hcs
      · next hdigit => exact if_neg hdigit
  rw [spelling, hstarted] at h
  rw [← h, eq_comm, map_plain_eq_self_iff]
  refine fun c hc => Decidable.byContradiction fun hword => hcs ?_
  exact h ▸ List.mem_map.mpr ⟨c, hc, if_neg hword⟩

/-- Any other character in a name can be another one, and the spelling stays. -/
theorem isAlphanumeric_of_unique (h : ∀ other, spelling other = spelling name → other = name) :
    ∀ c ∈ name.toList, Character.isAlphanumeric c = true := by
  refine fun c hc => Decidable.byContradiction fun hno => ?_
  obtain ⟨before, after, hname⟩ := List.append_of_mem hc
  obtain ⟨d, hne, hplain⟩ : ∃ d, d ≠ c ∧ plain d = plain c := by
    by_cases hunder : c = '_'
    · exact ⟨'-', by simp [hunder], by rw [hunder]; decide⟩
    · exact ⟨'_', Ne.symm hunder, by simp [plain, Character.isWord, hno, hunder]⟩
  have hother := h (String.ofList (before ++ d :: after)) (by simp [spelling, hname, hplain])
  have hlists : before ++ d :: after = before ++ c :: after := by
    rw [← hname, ← hother, String.toList_ofList]
  exact hne (List.cons.inj (List.append_cancel_left hlists)).1

/-- A name shares its spelling with no other one if and only if it has letters and numbers only and
no digit in front. -/
theorem isUnshared_iff :
    IsUnshared name ↔ ∀ other, spelling other = spelling name → other = name := by
  constructor
  · rintro ⟨halphanumeric, hdigit⟩ other he
    have hword : ∀ c ∈ name.toList, Character.isWord c = true := fun c hc => by
      simp [Character.isWord, halphanumeric c hc]
    have hunder : '_' ∉ name.toList := fun hmem => by
      have h := halphanumeric '_' hmem
      rw [isAlphanumeric_underscore] at h
      cases h
    rw [spelling_eq_self hword hdigit] at he
    exact String.toList_inj.mp (toList_eq_of_spelling_eq he hunder)
  · intro h
    have halphanumeric := isAlphanumeric_of_unique h
    refine ⟨halphanumeric, fun c hc => Bool.eq_false_iff.mpr fun hdigit => ?_⟩
    obtain ⟨cs, hname⟩ := List.head?_eq_some_iff.mp hc
    have hself : plain c = c := by
      refine plain_eq_self_iff.mpr ?_
      simp [Character.isWord, halphanumeric c (by simp [hname])]
    have hunder : plain '_' = '_' ∧ Character.isDigit '_' = false := by decide
    have hother := h (String.ofList ('_' :: name.toList))
      (by simp [spelling, started, hname, hself, hdigit, hunder])
    have hlength := congrArg (fun s => s.toList.length) hother
    simp at hlength

end Marked

end ApiStubs.Naming
