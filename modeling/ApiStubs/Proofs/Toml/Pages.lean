import ApiStubs.Proofs.Toml.Lines
import Mathlib.Data.List.DropRight

/-! # Reading the line of a setting

A line that starts with the key of a setting and a mark gives that setting the text that is read
from its mark on, if the key is new. An item that is a scalar stays what it is, whatever lines
follow.
-/

namespace ApiStubs.Toml

open Text

variable {c d : Char} {cs p r z key value line : List Char} {n : SettingName} {page page' : Page}
  {path here names : List String} {quote : Option Char} {v : Scalar}

section Trimming

theorem trim_cons (h : Character.isBlank c = false) (cs : List Char) :
    trim (c :: cs) = (c :: cs).rdropWhile Character.isBlank := by
  rw [trim, trimWhile, List.dropWhile_cons_of_neg (by simp [h]), List.rdropWhile]

theorem trim_blank (h : Character.isBlank c = true) (cs : List Char) :
    trim (c :: cs) = trim cs := by
  rw [trim, trimWhile, List.dropWhile_cons_of_pos h, trim, trimWhile]

/-- Nothing in front of a character that is no blank is at the end of a text. -/
theorem rdropWhile_append_cons (h : Character.isBlank c = false) (p cs : List Char) :
    (p ++ c :: cs).rdropWhile Character.isBlank =
      p ++ (c :: cs).rdropWhile Character.isBlank := by
  have hkeeps : ¬ Character.isBlank c = true := by simp [h]
  induction cs using List.reverseRecOn with
  | nil =>
    rw [List.rdropWhile_concat_neg _ _ _ hkeeps]
    exact congrArg (p ++ ·) (List.rdropWhile_concat_neg _ [] c hkeeps).symm
  | append_singleton cs d ih =>
    rw [← List.cons_append, ← List.append_assoc, List.rdropWhile_concat, List.rdropWhile_concat, ih]
    split
    · rfl
    · rw [List.append_assoc]

/-- A value starts with a mark, so blanks are cut off at its end only. -/
theorem exists_trim_mark (r : List Char) :
    ∃ value, trim ('"' :: r) = '"' :: value ∧ trim ('"' :: value) = '"' :: value ∧
      ∀ p, (p ++ '"' :: r).rdropWhile Character.isBlank = p ++ '"' :: value := by
  have hmark : Character.isBlank '"' = false := by decide
  have htrim := trim_cons hmark r
  obtain ⟨value, hvalue⟩ : ∃ value, ('"' :: r).rdropWhile Character.isBlank = '"' :: value := by
    have hcut := List.rdropWhile_prefix Character.isBlank ('"' :: r)
    cases hkept : ('"' :: r).rdropWhile Character.isBlank with
    | nil =>
      have hblank := List.rdropWhile_eq_nil_iff.mp hkept '"' List.mem_cons_self
      exact absurd (hmark.symm.trans hblank) (by decide)
    | cons c value =>
      rw [hkept, List.cons_prefix_cons] at hcut
      exact ⟨value, by rw [hcut.1]⟩
  refine ⟨value, htrim.trans hvalue, ?_, fun p => ?_⟩
  · rw [trim_cons hmark, ← hvalue, List.rdropWhile_idempotent]
  · rw [rdropWhile_append_cons hmark, hvalue]

end Trimming

section Pieces

/-- Quoted or not, the pieces of a text make up the text. -/
theorem flatMap_splitOutside (sep : Char) (quote : Option Char) (cs : List Char) :
    (splitOutside sep quote cs).flatMap (sep :: ·) = sep :: cs := by
  induction cs generalizing quote with
  | nil => rfl
  | cons c cs ih =>
    rw [splitOutside]
    split
    · next h => rw [List.flatMap_cons, ih, h.2]; rfl
    · dsimp only
      split
      · next hnil =>
        have hrest := ih (if quote = some c then none
          else if quote.isNone ∧ (c = '"' ∨ c = '\'') then some c else quote)
        rw [hnil] at hrest
        cases hrest
      · next w ws hcons =>
        have hrest := ih (if quote = some c then none
          else if quote.isNone ∧ (c = '"' ∨ c = '\'') then some c else quote)
        rw [hcons] at hrest
        simpa using hrest

theorem splitOutside_append {sep : Char} (h : ∀ c ∈ p, c ∉ [sep, '"', '\'']) (z : List Char) :
    splitOutside sep none (p ++ sep :: z) = p :: splitOutside sep none z := by
  induction p with
  | nil => simp [splitOutside]
  | cons c p ih =>
    obtain ⟨hc, hp⟩ := List.forall_mem_cons.mp h
    simp only [List.mem_cons, List.not_mem_nil, or_false, not_or] at hc
    simp [splitOutside, hc, ih hp]

theorem flatMap_splitOn (sep : Char) (cs : List Char) :
    (splitOn sep cs).flatMap (· ++ [sep]) = cs ++ [sep] := by
  induction cs with
  | nil => rfl
  | cons c cs ih =>
    by_cases hc : c = sep
    · subst hc
      rw [splitOn_cons_self, List.flatMap_cons, ih]
      rfl
    · rw [splitOn_cons_of_ne hc]
      cases hs : splitOn sep cs with
      | nil => exact absurd hs (splitOn_ne_nil sep cs)
      | cons w ws =>
        rw [hs] at ih
        simpa using ih

/-- A value that has a blank before it is the whole rest of the line. -/
theorem keyAndValue?_blank (key value : List Char) :
    keyAndValue? key (splitOn '=' (' ' :: value)) = some (key, ' ' :: value) := by
  have hfollow : ∀ cs, mayFollow (' ' :: cs) = true := fun cs => rfl
  have hpieces := flatMap_splitOn '=' (' ' :: value)
  match hs : splitOn '=' (' ' :: value) with
  | [] => exact absurd hs (splitOn_ne_nil _ _)
  | [w] =>
    have hw : w = ' ' :: value := List.append_cancel_right (by simpa [hs] using hpieces)
    rw [keyAndValue?, hw, hfollow, if_pos rfl]
  | w :: next :: rest =>
    have hwhole : w ++ '=' :: (next :: rest).flatMap (fun r => r ++ ['=']) =
        ' ' :: value ++ ['='] := by
      simpa [hs] using hpieces
    rw [keyAndValue?]
    simp only [hwhole, List.dropLast_concat, hfollow, if_true]

end Pieces

section Items

namespace Page

theorem at?_add_self (page : Page) (path : List String) (item : Item) :
    (page.add path item).at? path = some item := by
  have hnone : (page.items.filter (·.1 ≠ path)).lookup path = none := by
    rw [List.lookup_eq_none_iff]
    intro entry hentry
    have hne : entry.1 ≠ path := by simpa using (List.mem_filter.mp hentry).2
    exact bne_iff_ne.mpr hne.symm
  rw [at?, add]
  dsimp only
  rw [List.lookup_append, hnone, List.lookup_cons_self, Option.none_or]

theorem at?_add_of_ne {other : List String} (h : path ≠ other) (page : Page) (item : Item) :
    (page.add other item).at? path = page.at? path := by
  simp only [at?, add, List.lookup_append, lookup_filter_ne h]
  simp [List.lookup_cons, beq_false_of_ne h]

/-- A page on which every scalar of another one is found again. -/
def Keeps (page page' : Page) : Prop :=
  ∀ path v, page.at? path = some (.scalar v) → page'.at? path = some (.scalar v)

theorem Keeps.refl (page : Page) : Keeps page page := fun _ _ h => h

theorem Keeps.trans {page'' : Page} (h : Keeps page page') (h' : Keeps page' page'') :
    Keeps page page'' := fun path v hv => h' path v (h path v hv)

theorem keeps_add {other : List String} (h : ∀ v, page.at? other ≠ some (.scalar v))
    (item : Item) : Keeps page (page.add other item) := by
  intro path v hv
  have hne : path ≠ other := fun he => h v (he ▸ hv)
  rw [at?_add_of_ne hne, hv]

end Page

theorem keeps_makeTables? {page page' : Page} {here names path : List String}
    (h : makeTables? page here names = some (page', path)) : page.Keeps page' := by
  induction names generalizing page here with
  | nil => cases h
  | cons name rest ih =>
    cases rest with
    | nil => cases h; exact .refl _
    | cons next rest =>
      rw [makeTables?] at h
      split at h
      · next hnone => exact (Page.keeps_add (by simp [hnone]) _).trans (ih h)
      · exact ih h
      · cases h
      · simp

theorem keeps_openTables? {page page' : Page} {here names : List String}
    (h : openTables? page here names = some page') : page.Keeps page' := by
  induction names generalizing page here with
  | nil => cases h; exact .refl _
  | cons name rest ih =>
    cases rest with
    | nil =>
      rw [openTables?] at h
      split at h
      · next hnone => cases h; exact Page.keeps_add (by simp [hnone]) _
      · split at h
        · cases h; exact .refl _
        · cases h
    | cons next rest =>
      rw [openTables?] at h
      · split at h
        · next hnone =>
          refine Page.Keeps.trans ?_ (ih h)
          exact Page.keeps_add (by simp [hnone]) .table
        · exact ih h
        · exact ih h
        · cases h
      · simp

theorem keeps_openListed? {page page' : Page} {names : List String}
    (h : openListed? page names = some page') : page.Keeps page' := by
  unfold openListed? at h
  split at h
  · next hnone => cases h; exact Page.keeps_add (by simp [hnone]) _
  · next hlisted => cases h; exact Page.keeps_add (by simp [hlisted]) _
  · cases h

theorem keeps_readHeader? {page page' : Page} {line : List Char}
    (h : readHeader? page line = some page') : page.Keeps page' := by
  unfold readHeader? at h
  dsimp only at h
  split at h
  · split at h
    · split at h
      · obtain ⟨names, -, hopen⟩ := Option.bind_eq_some_iff.mp h
        exact keeps_openListed? hopen
      · cases h
    · split at h
      · obtain ⟨names, -, hopen⟩ := Option.bind_eq_some_iff.mp h
        exact keeps_openTables? hopen
      · cases h
  · cases h

theorem keeps_readPair? {page page' : Page} {line : List Char}
    (h : readPair? page line = some page') : page.Keeps page' := by
  unfold readPair? at h
  split at h
  · obtain ⟨⟨key, value⟩, -, h⟩ := Option.bind_eq_some_iff.mp h
    obtain ⟨item, -, h⟩ := Option.bind_eq_some_iff.mp h
    obtain ⟨⟨made, path⟩, hmade, h⟩ := Option.bind_eq_some_iff.mp h
    dsimp only at h
    split at h
    · cases h
    · next hfree =>
      cases h
      refine (keeps_makeTables? hmade).trans (Page.keeps_add (fun v hv => hfree ?_) item)
      rw [hv]
      rfl
  · cases h

/-- Whatever a line says, the scalars read before it stay. -/
theorem keeps_readLine? {page page' : Page} {line : List Char}
    (h : readLine? page line = some page') : page.Keeps page' := by
  unfold readLine? at h
  dsimp only at h
  split at h
  · cases h; exact .refl _
  · exact keeps_readHeader? h
  · split at h
    · exact keeps_readPair? h
    · cases h; exact .refl _

theorem keeps_foldlM {page page' : Page} {lines : List (List Char)}
    (h : lines.foldlM readLine? page = some page') : page.Keeps page' := by
  induction lines generalizing page with
  | nil => cases h; exact .refl _
  | cons line lines ih =>
    rw [List.foldlM_cons] at h
    obtain ⟨middle, hline, hrest⟩ := Option.bind_eq_some_iff.mp h
    exact (keeps_readLine? hline).trans (ih hrest)

end Items

section Lines

/-- What a line with the key of a setting leaves of a page outside all tables. -/
theorem readLine?_setting (hcurrent : page.current = []) (n : SettingName) (r : List Char) :
    readLine? page (n.label.toList ++ (" = \"".toList ++ r)) =
      (readString? '"' (trim ('"' :: r))).bind fun t =>
        if (page.at? [n.label]).isSome then none
        else some (page.add [n.label] (.scalar (.text t))) := by
  obtain ⟨value, hvalue, htrimmed, hend⟩ := exists_trim_mark r
  have hkey : splitOutside '=' none (n.label.toList ++ ' ' :: '=' :: ' ' :: '"' :: value) =
      (n.label.toList ++ [' ']) :: splitOutside '=' none (' ' :: '"' :: value) := by
    have hplain : ∀ c ∈ n.label.toList ++ [' '], c ∉ ['=', '"', '\''] := by
      cases n <;> exact List.all_iff_forall_prop.mp (by decide)
    rw [← splitOutside_append hplain, List.append_assoc]
    rfl
  obtain ⟨c, label, hlabel, hblank, hheader⟩ : ∃ c label, n.label.toList = c :: label ∧
      Character.isBlank c = false ∧ c ≠ '[' := by
    cases n <;> exact ⟨_, _, rfl, by decide, by decide⟩
  have hline : trim (n.label.toList ++ (" = \"".toList ++ r)) =
      n.label.toList ++ ' ' :: '=' :: ' ' :: '"' :: value := by
    have hcut := hend (n.label.toList ++ [' ', '=', ' '])
    simp only [hlabel, List.append_assoc, List.cons_append, List.nil_append] at hcut ⊢
    rw [trim_cons hblank]
    exact hcut
  have hnames : keyNames (trim (n.label.toList ++ [' '])) = [n.label] := by
    cases n <;> decide
  have hpair : readLine? page (n.label.toList ++ (" = \"".toList ++ r)) =
      readPair? page (n.label.toList ++ ' ' :: '=' :: ' ' :: '"' :: value) := by
    rw [readLine?, hline, hlabel]
    simp [hheader]
  have hvalues : (splitOutside '=' none (' ' :: '"' :: value)).flatMap (fun r => '=' :: r) =
      '=' :: ' ' :: '"' :: value := flatMap_splitOutside _ _ _
  have htext : readValue? (trim (' ' :: '"' :: value)) =
      (readString? '"' ('"' :: value)).map fun t => .scalar (.text t) := by
    rw [trim_blank (by decide), htrimmed]
    rfl
  rw [hpair, readPair?, hkey, hvalue]
  simp only [hvalues, List.drop_succ_cons, List.drop_zero, keyAndValue?_blank, hcurrent,
    Option.bind_eq_bind, Option.bind_some, htext, hnames, makeTables?]
  cases readString? '"' ('"' :: value) <;> rfl

end Lines

end ApiStubs.Toml
