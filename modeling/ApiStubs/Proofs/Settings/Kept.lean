import ApiStubs.Proofs.Settings.Written
import ApiStubs.Proofs.Toml.Rows

/-! # Settings that are read back

The settings before the first text that is not kept are read back from their lines. From the line of
that text another one is read, or the file is not read at all; and whatever follows, a text that has
been read stays. So a file is read back only if all its texts are kept.
-/

namespace ApiStubs

open Text Toml

variable {s : Settings} {e : SettingName × String} {before body out z : List Char}
  {done more : List (SettingName × String)} {text : String}

namespace Settings

/-- From the line of a text that is not kept no such text is read. -/
theorem exists_other_row (hbody : body? e.2 = some body) (hkept : ¬ IsKept e.2.toList)
    (hz : z = [] ∨ ∃ (n : SettingName) (z' : List Char),
      z = n.label.toList ++ (" = \"".toList ++ z'))
    (h : Layout.clean? {} false before (lineOf e.1 body ++ z) = some out) :
    ∃ after r rows, out = before.reverse ++ after ∧
      splitOn '\n' after = (e.1.label.toList ++ (" = \"".toList ++ r)) :: rows ∧
      readString? '"' (trim ('"' :: r)) ≠ some e.2 := by
  cases hx : contains ['\\', 'x'] (requoted e.2.toList) with
  | true =>
    have hstart : Unmarked body := by
      apply (joinsTo_of_rejoin? hbody).unmarked
      rw [requoted_eq] at hx ⊢
      exact opens_written hx
    obtain ⟨after, r, rows, hout, hrow, hcost⟩ :=
      Layout.exists_row hstart (break_not_mem_body hbody (by decide)) hz h
    refine ⟨after, r, rows, hout, hrow, fun hread => ?_⟩
    have hle := hcost e.2 hread
    have hlt := weigh_lt_of_body? hbody hx
    omega
  | false =>
    have hplain := (not_contains_requoted_iff _).mp hx
    rw [body?_of_not_contains hx] at hbody
    cases hbody
    rw [Layout.clean?_lineOf] at h
    obtain ⟨rest, rfl⟩ := Layout.exists_rest h
    have hline : lineOf e.1 (e.2.toList.flatMap (quotedChar '"')) = rowOf e ++ ['\n'] := by
      simp [lineOf, rowOf]
    refine ⟨rowOf e ++ '\n' :: rest, e.2.toList.flatMap (quotedChar '"') ++ ['"'],
      splitOn '\n' rest, by simp [hline], ?_, fun hread => ?_⟩
    · rw [splitOn_append_cons, splitOn_of_not_mem (break_not_mem_rowOf e)]
      rfl
    · rw [trim_written] at hread
      have htext := (readString?_written_iff hplain.1).mp (by rw [hread, String.ofList_toList])
      exact hkept ⟨hplain.1, hplain.2, htext.1.1, htext.1.2, htext.2⟩

/-- Settings with a written form have a line each. -/
theorem lines_of_isKept (hdone : ∀ e ∈ done, IsKept e.2.toList) :
    (done.mapM fun e => (body? e.2).map (lineOf e.1)) =
      some (done.map fun e => lineOf e.1 (e.2.toList.flatMap (quotedChar '"'))) := by
  induction done with
  | nil => rfl
  | cons e done ih =>
    obtain ⟨he, hrest⟩ := List.forall_mem_cons.mp hdone
    rw [List.mapM_cons, body?_of_isKept he, ih hrest]
    rfl

/-- The lines of settings start with a key and a mark, if there are any. -/
theorem exists_label_of_lines {lines : List (List Char)}
    (h : (more.mapM fun e => (body? e.2).map (lineOf e.1)) = some lines) :
    lines.flatten = [] ∨ ∃ (n : SettingName) (z : List Char),
      lines.flatten = n.label.toList ++ (" = \"".toList ++ z) := by
  cases more with
  | nil => cases h; exact .inl rfl
  | cons e more =>
    rw [List.mapM_cons] at h
    obtain ⟨line, hline, h⟩ := Option.bind_eq_some_iff.mp h
    obtain ⟨later, -, ⟨⟩⟩ := Option.bind_eq_some_iff.mp h
    obtain ⟨body, -, rfl⟩ := Option.map_eq_some_iff.mp hline
    exact .inr ⟨e.1, body ++ '"' :: '\n' :: later.flatten, by simp [lineOf]⟩

theorem exists_line_of_written? (h : s.HasTexts) (htext : s.written? = some text)
    (hentries : s.entries = done ++ e :: more) (hdone : ∀ e ∈ done, IsKept e.2.toList) :
    ∃ body z, text.toList = linesOf done ++ (lineOf e.1 body ++ z) ∧ body? e.2 = some body ∧
      (z = [] ∨ ∃ (n : SettingName) (z' : List Char),
        z = n.label.toList ++ (" = \"".toList ++ z')) := by
  rw [written?_eq h, hentries, List.mapM_append, List.mapM_cons, lines_of_isKept hdone,
    Option.map_eq_some_iff] at htext
  obtain ⟨lines, hlines, rfl⟩ := htext
  obtain ⟨first, ⟨⟩, hlines⟩ := Option.bind_eq_some_iff.mp hlines
  obtain ⟨rest, hrest, ⟨⟩⟩ := Option.bind_eq_some_iff.mp hlines
  obtain ⟨line, hline, hrest⟩ := Option.bind_eq_some_iff.mp hrest
  obtain ⟨later, hlater, ⟨⟩⟩ := Option.bind_eq_some_iff.mp hrest
  obtain ⟨body, hbody, rfl⟩ := Option.map_eq_some_iff.mp hline
  refine ⟨body, later.flatten, ?_, hbody, exists_label_of_lines hlater⟩
  simp [linesOf, List.flatMap_def]

/-- Behind texts that are kept the next one is kept if the file is read back. -/
theorem isKept_of_next (h : s.HasTexts) (htext : s.written? = some text)
    (hread : read? text = some s) (hentries : s.entries = done ++ e :: more)
    (hdone : ∀ e ∈ done, IsKept e.2.toList) : IsKept e.2.toList := by
  by_contra hkept
  obtain ⟨body, z, hlines, hbody, hz⟩ := exists_line_of_written? h htext hentries hdone
  obtain ⟨out, page, hclean, hpage, hvalues⟩ := read?_eq_some_iff.mp hread
  rw [cleanText?, hlines, clean?_linesOf] at hclean
  obtain ⟨after, r, rows, rfl, hrow, hother⟩ := exists_other_row hbody hkept hz hclean
  have hnodup : ((done ++ e :: more).map Prod.fst).Nodup := hentries ▸ nodup_entries s
  have hnew : e.1 ∉ done.map Prod.fst := by
    rw [List.map_append, List.nodup_append] at hnodup
    exact fun hmem => hnodup.2.2 e.1 hmem e.1 List.mem_cons_self rfl
  have hrows := foldlM_rowOf [] hdone (hnodup.sublist (by simp))
  rw [List.append_nil, List.reverse_reverse, splitOn_linesOf, hrow, List.foldlM_append] at hpage
  obtain ⟨middle, hmiddle, hpage⟩ := Option.bind_eq_some_iff.mp hpage
  obtain rfl := Option.some.inj (hrows.symm.trans hmiddle)
  rw [List.foldlM_cons] at hpage
  obtain ⟨next, hnext, hpage⟩ := Option.bind_eq_some_iff.mp hpage
  rw [List.nil_append, readLine?_setting rfl, at?_pageOf hnew] at hnext
  obtain ⟨v, hv, ⟨⟩⟩ := Option.bind_eq_some_iff.mp hnext
  have hfound := keeps_foldlM hpage _ _ (Toml.Page.at?_add_self _ [e.1.label] (.scalar (.text v)))
  have hget : s.get e.1 = .text e.2 := mem_entries_iff.mp (by rw [hentries]; simp)
  have hvalue := hvalues e.1
  rw [hget, valueOn, hfound] at hvalue
  cases hvalue
  exact hother hv

theorem isKept_of_read? (h : s.HasTexts) (htext : s.written? = some text)
    (hread : read? text = some s) : ∀ e ∈ s.entries, IsKept e.2.toList := by
  have hrest : ∀ more done, s.entries = done ++ more → (∀ e ∈ done, IsKept e.2.toList) →
      ∀ e ∈ more, IsKept e.2.toList := by
    intro more
    induction more with
    | nil => intro _ _ _ e he; cases he
    | cons e more ih =>
      intro done hentries hdone
      have he := isKept_of_next h htext hread hentries hdone
      refine List.forall_mem_cons.mpr ⟨he, ih (done ++ [e]) (by simp [hentries]) ?_⟩
      exact List.forall_mem_append.mpr ⟨hdone, List.forall_mem_singleton.mpr he⟩
  exact hrest s.entries [] rfl (by simp)

theorem written?_of_isKept (h : s.HasTexts) (hkept : ∀ e ∈ s.entries, IsKept e.2.toList) :
    s.written? = some (String.ofList (linesOf s.entries)) := by
  rw [written?_eq h, lines_of_isKept hkept, Option.map_some, linesOf, List.flatMap_def]

/-- Settings are read back from their written form if and only if all their texts are kept. -/
theorem readBack_iff (h : s.HasTexts) :
    (∃ text, s.written? = some text ∧ read? text = some s) ↔
      ∀ e ∈ s.entries, IsKept e.2.toList := by
  constructor
  · rintro ⟨text, htext, hread⟩
    exact isKept_of_read? h htext hread
  · intro hkept
    exact ⟨_, written?_of_isKept h hkept, read?_linesOf h hkept⟩

end Settings

end ApiStubs
