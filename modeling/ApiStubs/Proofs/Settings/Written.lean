import ApiStubs.Proofs.Library.Attempts
import ApiStubs.Proofs.Toml.Joining
import ApiStubs.Proofs.Toml.Pages

/-! # Files of written settings

The texts among the settings are written one below the other. Where all of them are kept, the file
is read back line by line: each line gives the setting of its key the text that was written for it.
-/

namespace ApiStubs

open Text Toml

variable {s : Settings} {n : SettingName} {t : String} {cs before z : List Char}
  {es done : List (SettingName × String)} {names : List SettingName}

theorem SettingName.label_inj {m n : SettingName} (h : m.label = n.label) : m = n := by
  revert h
  cases m <;> cases n <;> decide

theorem SettingName.nodup_all : SettingName.all.Nodup := by decide

namespace Toml

theorem body?_of_not_contains (h : contains ['\\', 'x'] (requoted t.toList) = false) :
    body? t = some (t.toList.flatMap (quotedChar '"')) := by
  rw [body?, splitAtEscape_of_not_contains h, requoted_eq]
  rfl

/-- A text is written without escapes of two digits if no character has one and no backslash of it
stands before an `x`. -/
theorem not_contains_requoted_iff (cs : List Char) : contains ['\\', 'x'] (requoted cs) = false ↔
    (∀ c ∈ cs, numbered? c ≠ some 'x') ∧ contains ['\\', 'x'] cs = false := by
  rw [requoted_eq, Bool.eq_false_iff, ne_eq, contains_written_iff]
  simp

theorem body?_of_isKept (h : IsKept t.toList) :
    body? t = some (t.toList.flatMap (quotedChar '"')) :=
  body?_of_not_contains ((not_contains_requoted_iff _).mpr ⟨h.wide, h.bare⟩)

end Toml

namespace Settings

/-- The value of a setting if it is a text. -/
def pairOf? (s : Settings) (n : SettingName) : Option (SettingName × String) :=
  match s.get n with
  | .text t => some (n, t)
  | _ => none

/-- The settings that are texts, in the order in which they are written. -/
def entries (s : Settings) : List (SettingName × String) :=
  SettingName.all.filterMap s.pairOf?

/-- Every setting is a text, or absent as it usually is. -/
def HasTexts (s : Settings) : Prop :=
  ∀ n, (∃ t, s.get n = .text t) ∨ s.get n = .null ∧ ({} : Settings).get n = .null

theorem pairOf?_eq_some_iff {e : SettingName × String} :
    s.pairOf? n = some e ↔ s.get e.1 = .text e.2 ∧ e.1 = n := by
  obtain ⟨m, t⟩ := e
  unfold pairOf?
  split
  · next u hu =>
    constructor
    · rintro ⟨⟩; exact ⟨hu, rfl⟩
    · rintro ⟨ht, rfl⟩
      rw [hu] at ht
      cases ht
      rfl
  · next hu =>
    constructor
    · intro h; cases h
    · rintro ⟨ht, rfl⟩; exact absurd ht (hu t)

theorem mem_entries_iff : (n, t) ∈ s.entries ↔ s.get n = .text t := by
  have hall : n ∈ SettingName.all := by cases n <;> decide
  simp only [entries, List.mem_filterMap, pairOf?_eq_some_iff]
  exact ⟨fun ⟨_, _, h, _⟩ => h, fun h => ⟨n, hall, h, rfl⟩⟩

theorem nodup_entries (s : Settings) : (s.entries.map Prod.fst).Nodup := by
  have hsublist := Library.map_filterMap_sublist (k := id)
    (fun _ _ he => ((pairOf?_eq_some_iff (s := s)).mp he).2) SettingName.all
  rw [List.map_id] at hsublist
  exact SettingName.nodup_all.sublist hsublist

theorem line?_of_text (h : s.get n = .text t) :
    s.line? n = ((body? t).map (lineOf n)).map String.ofList := by
  have hline : ∀ body : List Char,
      n.label ++ " = " ++ String.ofList ('"' :: body ++ ['"']) ++ "\n" =
        String.ofList (lineOf n body) := by
    intro body
    refine String.toList_inj.mp ?_
    simp [lineOf]
  have hvalue : writeString? t =
      (body? t).map fun body => String.ofList ('"' :: body ++ ['"']) := rfl
  simp only [line?, h, valueText?, hvalue, Option.map_map]
  exact congrArg (Option.map · (body? t)) (funext hline)

/-- The lines of the settings that are texts make up the file. -/
theorem written?_eq (h : s.HasTexts) :
    s.written? = (s.entries.mapM fun e => (body? e.2).map (lineOf e.1)).map
      fun lines => String.ofList lines.flatten := by
  unfold written? entries
  induction SettingName.all with
  | nil => rfl
  | cons n names ih =>
    rw [List.mapM_cons]
    rcases h n with ⟨t, ht⟩ | ⟨hnull, -⟩
    · have he : s.pairOf? n = some (n, t) := pairOf?_eq_some_iff.mpr ⟨ht, rfl⟩
      rw [List.filterMap_cons_some he, List.mapM_cons, line?_of_text ht]
      cases body? t with
      | none => rfl
      | some body =>
        cases hrest : names.mapM s.line? with
        | none =>
          rw [hrest, Option.map_none, eq_comm, Option.map_eq_none_iff] at ih
          simp [ih]
        | some rest =>
          rw [hrest, Option.map_some, eq_comm, Option.map_eq_some_iff] at ih
          obtain ⟨lines, hlines, hconcat⟩ := ih
          simp [hlines, concat, ← hconcat]
    · have he : s.pairOf? n = none := by rw [pairOf?, hnull]
      have hline : s.line? n = some "" := by rw [line?, hnull]
      rw [List.filterMap_cons_none he, ← ih, hline]
      cases names.mapM s.line? with
      | none => rfl
      | some lines => simp [concat]

section Reading

/-- The line of a setting with its text, without the break at its end. -/
def rowOf (e : SettingName × String) : List Char :=
  e.1.label.toList ++ (" = \"".toList ++ (e.2.toList.flatMap (quotedChar '"') ++ ['"']))

/-- The lines of settings that are all kept. -/
def linesOf (es : List (SettingName × String)) : List Char :=
  es.flatMap fun e => lineOf e.1 (e.2.toList.flatMap (quotedChar '"'))

/-- A page with some settings. -/
def pageOf (es : List (SettingName × String)) : Toml.Page where
  items := es.map fun e => ([e.1.label], .scalar (.text e.2))

theorem clean?_linesOf (es : List (SettingName × String)) (before z : List Char) :
    Layout.clean? {} false before (linesOf es ++ z) =
      Layout.clean? {} false ((linesOf es).reverse ++ before) z := by
  induction es generalizing before with
  | nil => rfl
  | cons e es ih =>
    simp only [linesOf, List.flatMap_cons, List.reverse_append, List.append_assoc] at ih ⊢
    rw [Layout.clean?_lineOf, ih]

theorem break_not_mem_rowOf (e : SettingName × String) : '\n' ∉ rowOf e := by
  have hlabel : '\n' ∉ e.1.label.toList := by cases e.1 <;> decide
  have hequals : '\n' ∉ " = \"".toList := by decide
  have hbody : '\n' ∉ e.2.toList.flatMap (quotedChar '"') :=
    requoted_eq e.2.toList ▸ break_not_mem_requoted (by decide) _
  simp only [rowOf, List.mem_append, not_or]
  exact ⟨hlabel, hequals, hbody, by decide⟩

theorem splitOn_linesOf (es : List (SettingName × String)) (z : List Char) :
    splitOn '\n' (linesOf es ++ z) = es.map rowOf ++ splitOn '\n' z := by
  induction es with
  | nil => rfl
  | cons e es ih =>
    have hline : linesOf (e :: es) ++ z = rowOf e ++ '\n' :: (linesOf es ++ z) := by
      simp [linesOf, lineOf, rowOf]
    rw [hline, splitOn_append_cons, splitOn_of_not_mem (break_not_mem_rowOf e), ih]
    rfl

theorem at?_pageOf (h : n ∉ es.map Prod.fst) : (pageOf es).at? [n.label] = none := by
  rw [Toml.Page.at?, pageOf, List.lookup_eq_none_iff]
  intro item hitem
  obtain ⟨e, he, rfl⟩ := List.mem_map.mp hitem
  refine bne_iff_ne.mpr fun hlabel => h ?_
  rw [SettingName.label_inj (List.cons.inj hlabel).1]
  exact List.mem_map_of_mem he

theorem add_pageOf (h : n ∉ es.map Prod.fst) (t : String) :
    (pageOf es).add [n.label] (.scalar (.text t)) = pageOf (es ++ [(n, t)]) := by
  have hothers : (pageOf es).items.filter (·.1 ≠ [n.label]) = (pageOf es).items := by
    refine List.filter_eq_self.mpr fun item hitem => decide_eq_true ?_
    obtain ⟨e, he, rfl⟩ := List.mem_map.mp hitem
    intro hlabel
    rw [← SettingName.label_inj (List.cons.inj hlabel).1] at h
    exact h (List.mem_map_of_mem he)
  rw [Toml.Page.add, hothers]
  simp [pageOf]

/-- A written value ends in its mark. -/
theorem trim_written (cs : List Char) : trim ('"' :: (cs.flatMap (quotedChar '"') ++ ['"'])) =
    '"' :: (cs.flatMap (quotedChar '"') ++ ['"']) := by
  rw [trim_cons (by decide), ← List.cons_append]
  exact List.rdropWhile_concat_neg _ _ _ (by decide)

/-- A row gives its setting its text. -/
theorem readLine?_rowOf {e : SettingName × String} (hkept : IsKept e.2.toList)
    (hnew : e.1 ∉ done.map Prod.fst) :
    readLine? (pageOf done) (rowOf e) = some (pageOf (done ++ [e])) := by
  rw [rowOf, readLine?_setting rfl, trim_written, readString?_of_isKept hkept, Option.bind_some,
    at?_pageOf hnew, String.ofList_toList, add_pageOf hnew]
  rfl

theorem foldlM_rowOf (done : List (SettingName × String)) (hkept : ∀ e ∈ es, IsKept e.2.toList)
    (hnodup : ((done ++ es).map Prod.fst).Nodup) :
    (es.map rowOf).foldlM readLine? (pageOf done) = some (pageOf (done ++ es)) := by
  induction es generalizing done with
  | nil => simp
  | cons e es ih =>
    obtain ⟨he, hes⟩ := List.forall_mem_cons.mp hkept
    have hsplit : done ++ e :: es = done ++ [e] ++ es := by simp
    have hnew : e.1 ∉ done.map Prod.fst := by
      rw [List.map_append, List.nodup_append] at hnodup
      exact fun hmem => hnodup.2.2 e.1 hmem e.1 List.mem_cons_self rfl
    rw [List.map_cons, List.foldlM_cons, readLine?_rowOf he hnew, hsplit]
    exact ih _ hes (hsplit ▸ hnodup)

/-- What a page says of a setting is found again among its items outside all tables. -/
theorem lookup_items (page : Toml.Page) (name : String) :
    (page.items.filterMap fun i =>
      match i.1 with
      | [name] => some (name, i.2)
      | _ => none).lookup name = page.at? [name] := by
  rw [Toml.Page.at?]
  induction page.items with
  | nil => rfl
  | cons item items ih =>
    obtain ⟨path, item⟩ := item
    rcases path with _ | ⟨other, _ | ⟨second, path⟩⟩
    · simpa [List.lookup_cons] using ih
    · by_cases hname : name = other
      · subst hname; simp
      · have hpath : ([name] == [other]) = false := by simpa using hname
        simp [List.lookup_cons, beq_false_of_ne hname, hpath, ih]
    · simpa [List.lookup_cons] using ih

/-- What a page says of a setting, which is the usual value where it has no scalar for it. -/
def valueOn (page : Toml.Page) (n : SettingName) : Scalar :=
  match page.at? [n.label] with
  | some (.scalar v) => v
  | _ => ({} : Settings).get n

theorem eq_of_get {s' : Settings} (h : ∀ n, s.get n = s'.get n) : s = s' := by
  rw [← ofValues_get s, ← ofValues_get s', funext h]

/-- A file is read by its layout and then line by line. -/
theorem read?_eq_some_iff {text : String} : read? text = some s ↔
    ∃ out page, cleanText? text = some out ∧
      (splitOn '\n' out).foldlM readLine? {} = some page ∧ ∀ n, s.get n = valueOn page n := by
  have hvalues : ∀ (page : Toml.Page) (n : SettingName), (ofItems (page.items.filterMap fun i =>
      match i.1 with
      | [name] => some (name, i.2)
      | _ => none)).get n = valueOn page n := by
    intro page n
    rw [ofItems, get_ofValues, lookup_items]
    rfl
  rw [read?, Toml.read?, Option.map_eq_some_iff]
  constructor
  · rintro ⟨items, hitems, rfl⟩
    obtain ⟨out, hout, hrest⟩ := Option.bind_eq_some_iff.mp hitems
    obtain ⟨page, hpage, ⟨⟩⟩ := Option.bind_eq_some_iff.mp hrest
    exact ⟨out, page, hout, hpage, hvalues page⟩
  · rintro ⟨out, page, hout, hpage, hs⟩
    refine ⟨_, Option.bind_eq_some_iff.mpr ⟨out, hout, Option.bind_eq_some_iff.mpr
      ⟨page, hpage, rfl⟩⟩, eq_of_get fun n => ?_⟩
    exact (hvalues page n).trans (hs n).symm

theorem at?_pageOf_of_mem (hnodup : (es.map Prod.fst).Nodup) (h : (n, t) ∈ es) :
    (pageOf es).at? [n.label] = some (.scalar (.text t)) := by
  obtain ⟨before, after, rfl⟩ := List.append_of_mem h
  have hbefore : n ∉ before.map Prod.fst := by
    rw [List.map_append, List.nodup_append] at hnodup
    exact fun hmem => hnodup.2.2 n hmem n List.mem_cons_self rfl
  have hnone := at?_pageOf hbefore
  simp only [Toml.Page.at?, pageOf] at hnone ⊢
  rw [List.map_append, List.map_cons, List.lookup_append, hnone, List.lookup_cons_self,
    Option.none_or]

/-- A file with texts that are all kept is read back. -/
theorem read?_linesOf (h : s.HasTexts) (hkept : ∀ e ∈ s.entries, IsKept e.2.toList) :
    read? (String.ofList (linesOf s.entries)) = some s := by
  have hclean : cleanText? (String.ofList (linesOf s.entries)) = some (linesOf s.entries) := by
    have hlines := clean?_linesOf s.entries [] []
    simp only [List.append_nil] at hlines
    rw [cleanText?, String.toList_ofList, hlines]
    simp [Layout.clean?]
  have hpage : (splitOn '\n' (linesOf s.entries)).foldlM readLine? {} =
      some (pageOf s.entries) := by
    have hrows := foldlM_rowOf [] hkept (nodup_entries s)
    have hsplit := splitOn_linesOf s.entries []
    rw [List.append_nil] at hsplit
    rw [hsplit, List.foldlM_append]
    exact Option.bind_eq_some_iff.mpr ⟨_, hrows, rfl⟩
  refine read?_eq_some_iff.mpr ⟨_, _, hclean, hpage, fun n => ?_⟩
  rw [valueOn]
  rcases h n with ⟨t, ht⟩ | ⟨hnull, hdefault⟩
  · rw [at?_pageOf_of_mem (nodup_entries s) (mem_entries_iff.mpr ht), ht]
  · have habsent : n ∉ s.entries.map Prod.fst := by
      intro hmem
      obtain ⟨⟨m, t⟩, he, rfl⟩ := List.mem_map.mp hmem
      rw [mem_entries_iff.mp he] at hnull
      cases hnull
    rw [at?_pageOf habsent, hnull, hdefault]

end Reading

end Settings

end ApiStubs
