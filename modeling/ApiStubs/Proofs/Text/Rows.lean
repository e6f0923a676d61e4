import ApiStubs.Text.Lines
import ApiStubs.Text.Literal
import ApiStubs.Text.Split

/-! # Rows of a text

A row is a line without the break that ends it. Rows without breaks of their own are read back from
the page that is made of them, and a margin goes in front of each of them.
-/

namespace ApiStubs.Text

variable {c : Char} {cs ds is js us vs : List Char} {row text margin : String} {rest : List String}

/-- No kind of line break occurs. -/
def OneLine (cs : List Char) : Prop :=
  ∀ c ∈ cs, Character.isLineBreak c = false

/-- The lines of a text, each without the break that ends it. -/
def rows (text : String) : List String :=
  (lines text.toList).map fun line => String.ofList (line.filter (!Character.isLineBreak ·))

/-- The text in which every row is a line. -/
def page (rows : List String) : String :=
  concat (rows.map (· ++ "\n"))

/-- A row behind a margin, unless it is blank. -/
def indentRow (margin row : String) : String :=
  if row.toList.all Character.isBlank then row else margin ++ row

section OneLine

@[simp] theorem oneLine_nil : OneLine [] := by
  simp [OneLine]

theorem oneLine_cons : OneLine (c :: cs) ↔ Character.isLineBreak c = false ∧ OneLine cs :=
  List.forall_mem_cons

@[simp] theorem oneLine_append : OneLine (cs ++ ds) ↔ OneLine cs ∧ OneLine ds :=
  List.forall_mem_append

instance : Decidable (OneLine cs) :=
  decidable_of_decidable_of_iff (p := (cs.all fun c => !Character.isLineBreak c) = true)
    (by simp [OneLine])

theorem isLineBreak_iff : Character.isLineBreak c = true ↔
    c ∈ ['\n', '\r', '\x0b', '\x0c', '\x1c', '\x1d', '\x1e', '\u0085', '\u2028', '\u2029'] := by
  simp [Character.isLineBreak, or_assoc]

/-- A class of characters to which no line break belongs. -/
theorem oneLine_of_forall {p : Char → Bool} (h : ∀ c ∈ cs, p c = true)
    (hp : ['\n', '\r', '\x0b', '\x0c', '\x1c', '\x1d', '\x1e', '\u0085', '\u2028', '\u2029'].all
      (fun c => !p c) = true) : OneLine cs := by
  intro c hc
  refine Bool.eq_false_iff.mpr fun hb => ?_
  have hout := List.all_eq_true.mp hp c (isLineBreak_iff.mp hb)
  simp [h c hc] at hout

theorem isBlank_of_isLineBreak (h : Character.isLineBreak c = true) :
    Character.isBlank c = true := by
  have hall : ['\n', '\r', '\x0b', '\x0c', '\x1c', '\x1d', '\x1e', '\u0085', '\u2028',
      '\u2029'].all Character.isBlank = true := by decide
  exact List.all_eq_true.mp hall c (isLineBreak_iff.mp h)

theorem oneLine_joinWith {sep : String} (hsep : OneLine sep.toList)
    (h : ∀ row ∈ rest, OneLine row.toList) : OneLine (joinWith sep rest).toList := by
  fun_induction joinWith sep rest with
  | case1 => simp
  | case2 row => exact h row (List.mem_singleton_self row)
  | case3 row rest _ ih =>
    obtain ⟨hrow, hrest⟩ := List.forall_mem_cons.mp h
    simp only [String.toList_append, oneLine_append]
    exact ⟨⟨hrow, hsep⟩, ih hrest⟩

theorem mem_hex {width n : Nat} (h : c ∈ hex width n) : ∃ k < 16, c = hexDigit k := by
  induction width generalizing n with
  | zero => simp [hex] at h
  | succ width ih =>
    rw [hex, List.mem_append, List.mem_singleton] at h
    exact h.elim ih fun he => ⟨n % 16, Nat.mod_lt n (by decide), he⟩

theorem hexDigit_printable : ∀ k < 16, ' ' ≤ hexDigit k ∧ hexDigit k ≤ '~' := by
  decide

theorem mem_escape {d e : Char} (he : ' ' ≤ e ∧ e ≤ '~') (hd : d ∈ ['\\', e]) :
    ' ' ≤ d ∧ d ≤ '~' := by
  rcases List.mem_cons.mp hd with rfl | hd
  · decide
  · exact List.mem_singleton.mp hd ▸ he

/-- A literal is made of printable ASCII, whatever it stands for. -/
theorem mem_literalChar {d : Char} (h : d ∈ literalChar c) : ' ' ≤ d ∧ d ≤ '~' := by
  unfold literalChar at h
  split at h
  · next hc => exact mem_escape (by rcases hc with rfl | rfl <;> decide) h
  split at h
  · exact mem_escape (by decide) h
  split at h
  · exact mem_escape (by decide) h
  split at h
  · exact mem_escape (by decide) h
  split at h
  · exact mem_escape (by decide) h
  split at h
  · exact mem_escape (by decide) h
  split at h
  · next hc => exact List.mem_singleton.mp h ▸ hc
  · obtain ⟨u, -, hu⟩ := List.mem_flatMap.mp h
    rw [List.mem_cons, List.mem_cons] at hu
    rcases hu with rfl | rfl | hu
    · decide
    · decide
    · obtain ⟨k, hk, rfl⟩ := mem_hex hu
      exact hexDigit_printable k hk

theorem oneLine_literal (s : String) : OneLine (literal s).toList := by
  have hprintable : ∀ c ∈ (literal s).toList, decide (' ' ≤ c ∧ c ≤ '~') = true := by
    intro c hc
    refine decide_eq_true ?_
    simp only [literal, String.toList_ofList, List.cons_append, List.mem_cons, List.mem_append,
      List.mem_flatMap, List.not_mem_nil, or_false] at hc
    rcases hc with rfl | ⟨_, _, hc⟩ | rfl
    · decide
    · exact mem_literalChar hc
    · decide
  exact oneLine_of_forall hprintable (by decide +kernel)

end OneLine

theorem indentRow_eq (hc : c ∈ row.toList) (hvisible : Character.isBlank c = false) :
    indentRow margin row = margin ++ row := by
  refine if_neg fun hblank => ?_
  rw [List.all_eq_true.mp hblank c hc] at hvisible
  cases hvisible

theorem oneLine_indentRow (hmargin : OneLine margin.toList) (h : OneLine row.toList) :
    OneLine (indentRow margin row).toList := by
  unfold indentRow
  split
  · exact h
  · rw [String.toList_append, oneLine_append]
    exact ⟨hmargin, h⟩

theorem lines_cons_of_apart (hpair : ∀ rest, c = '\r' → cs ≠ '\n' :: rest) : lines (c :: cs) =
    if Character.isLineBreak c then [c] :: lines cs
    else
      match lines cs with
      | [] => [[c]]
      | l :: ls => (c :: l) :: ls := by
  rw [lines.eq_def]
  split
  · contradiction
  · next he =>
    obtain ⟨hc, hcs⟩ := List.cons.inj he
    exact absurd hcs (hpair _ hc)
  · next he =>
    obtain ⟨rfl, rfl⟩ := List.cons.inj he
    rfl

theorem lines_cons (hc : c ≠ '\r') : lines (c :: cs) =
    if Character.isLineBreak c then [c] :: lines cs
    else
      match lines cs with
      | [] => [[c]]
      | l :: ls => (c :: l) :: ls :=
  lines_cons_of_apart fun _ h => absurd h hc

theorem ne_return_of_isLineBreak (hc : Character.isLineBreak c = false) : c ≠ '\r' := by
  rintro rfl
  exact absurd hc (by decide)

theorem lines_append_cons (h : OneLine cs) (ds : List Char) :
    lines (cs ++ '\n' :: ds) = (cs ++ ['\n']) :: lines ds := by
  induction cs with
  | nil => exact (lines_cons (by decide)).trans (if_pos (by decide))
  | cons c cs ih =>
    obtain ⟨hc, hcs⟩ := oneLine_cons.mp h
    rw [List.cons_append, lines_cons (ne_return_of_isLineBreak hc), hc, ih hcs]
    rfl

theorem lines_of_oneLine (h : OneLine cs) (hne : cs ≠ []) : lines cs = [cs] := by
  induction cs with
  | nil => exact absurd rfl hne
  | cons c cs ih =>
    obtain ⟨hc, hcs⟩ := oneLine_cons.mp h
    rw [lines_cons (ne_return_of_isLineBreak hc), hc]
    by_cases hnil : cs = []
    · rw [hnil]
      rfl
    · rw [ih hcs hnil]
      rfl

section LastLine

/-- What stands behind the last place of a character. -/
theorem eq_of_append_cons_eq (hi : c ∉ is) (hj : c ∉ js) (h : us ++ c :: is = vs ++ c :: js) :
    is = js := by
  have hread : ∀ {ws ks : List Char}, c ∉ ks →
      (ws ++ c :: ks).reverse.takeWhile (· != c) = ks.reverse := by
    intro ws ks hk
    have hother : ∀ d ∈ ks.reverse, (d != c) = true := fun d hd => bne_iff_ne.mpr fun he =>
      hk (List.mem_reverse.mp (he ▸ hd))
    rw [List.reverse_append, List.reverse_cons, List.append_assoc,
      List.takeWhile_append_of_pos hother]
    simp
  rw [← List.reverse_inj, ← hread hi, h, hread hj]

/-- No pair of breaks starts with a character that one line follows. -/
theorem apart_append (h : OneLine ds) (hpair : ∀ rest, c = '\r' → cs ≠ '\n' :: rest) :
    ∀ rest, c = '\r' → cs ++ ds ≠ '\n' :: rest := by
  intro rest hc hrest
  match cs with
  | [] => exact absurd (h '\n' ((List.nil_append ds ▸ hrest) ▸ List.mem_cons_self)) (by decide)
  | d :: cs => exact hpair cs hc (by rw [(List.cons.inj hrest).1])

theorem exists_lines_cons (hpair : ∀ rest, c = '\r' → cs ≠ '\n' :: rest)
    (h : ∃ before line, lines cs = before ++ [line ++ ds]) :
    ∃ before line, lines (c :: cs) = before ++ [line ++ ds] := by
  obtain ⟨before, line, hlines⟩ := h
  rw [lines_cons_of_apart hpair, hlines]
  split
  · exact ⟨[c] :: before, line, rfl⟩
  · match before with
    | [] => exact ⟨[], c :: line, rfl⟩
    | l :: before => exact ⟨(c :: l) :: before, line, rfl⟩

/-- The end of a text without a line break in it is the end of the last line. -/
theorem exists_lines_append (h : OneLine ds) (hne : ds ≠ []) (cs : List Char) :
    ∃ before line, lines (cs ++ ds) = before ++ [line ++ ds] := by
  induction cs using lines.induct with
  | case1 => exact ⟨[], [], lines_of_oneLine h hne⟩
  | case2 cs ih =>
    obtain ⟨before, line, hlines⟩ := ih
    exact ⟨['\r', '\n'] :: before, line, congrArg (['\r', '\n'] :: ·) hlines⟩
  | case3 c cs hpair _ ih => exact exists_lines_cons (apart_append h hpair) ih
  | case4 c cs hpair _ _ ih => exact exists_lines_cons (apart_append h hpair) ih
  | case5 c cs hpair _ _ _ _ ih => exact exists_lines_cons (apart_append h hpair) ih

end LastLine

theorem page_cons (row : String) (rest : List String) :
    page (row :: rest) = row ++ "\n" ++ page rest := rfl

theorem page_append (a b : List String) : page (a ++ b) = page a ++ page b := by
  induction a with
  | nil => simp [page, concat]
  | cons row a ih => simp only [List.cons_append, page_cons, ih, String.append_assoc]

theorem rows_append (h : OneLine row.toList) (text : String) :
    rows (row ++ "\n" ++ text) = row :: rows text := by
  have hfilter : (row.toList ++ ['\n']).filter (!Character.isLineBreak ·) = row.toList := by
    rw [List.filter_append, List.filter_eq_self.mpr fun c hc => by simp [h c hc]]
    simp [Character.isLineBreak]
  have hlines : lines (row ++ "\n" ++ text).toList =
      (row.toList ++ ['\n']) :: lines text.toList := by
    rw [String.toList_append, String.toList_append]
    simpa using lines_append_cons h text.toList
  rw [rows, hlines, List.map_cons, hfilter, String.ofList_toList]
  rfl

theorem rows_page (h : ∀ row ∈ rest, OneLine row.toList) : rows (page rest) = rest := by
  induction rest with
  | nil => rfl
  | cons row rest ih =>
    obtain ⟨hrow, hrest⟩ := List.forall_mem_cons.mp h
    rw [page_cons, rows_append hrow, ih hrest]

theorem joinWith_cons_cons (sep row next : String) (rest : List String) :
    joinWith sep (row :: next :: rest) = row ++ sep ++ joinWith sep (next :: rest) :=
  joinWith.eq_3 _ _ _ (by simp)

theorem joinWith_cons (row : String) {rest : List String} (hne : rest ≠ []) :
    joinWith "\n" (row :: rest) = row ++ "\n" ++ joinWith "\n" rest := by
  obtain ⟨next, rest, rfl⟩ := List.exists_cons_of_ne_nil hne
  exact joinWith_cons_cons "\n" row next rest

/-- A row with a line feed in it looks like two rows. -/
theorem joinWith_append (row next : String) (rest : List String) :
    joinWith "\n" ((row ++ "\n" ++ next) :: rest) = joinWith "\n" (row :: next :: rest) := by
  cases rest with
  | nil => rfl
  | cons r rest => simp only [joinWith_cons_cons, String.append_assoc]

/-- Rows joined by line feeds are a page without the last line feed. -/
theorem joinWith_newline (rest : List String) (hne : rest ≠ []) :
    joinWith "\n" rest ++ "\n" = page rest := by
  induction rest with
  | nil => exact absurd rfl hne
  | cons row rest ih =>
    match rest with
    | [] => simp [joinWith, page, concat]
    | next :: rest =>
      rw [joinWith_cons_cons, String.append_assoc, ih (by simp)]
      rfl

theorem indentRow_empty (margin : String) : indentRow margin "" = "" := rfl

theorem indent_empty (margin : String) : indent margin "" = "" := rfl

theorem indentLine_append (margin : String) (cs : List Char) :
    indentLine margin.toList (cs ++ ['\n']) =
      (indentRow margin (String.ofList cs)).toList ++ ['\n'] := by
  have hbreak : Character.isBlank '\n' = true := isBlank_of_isLineBreak (by decide)
  simp only [indentLine, indentRow, String.toList_ofList, List.all_append, List.all_cons, hbreak,
    List.all_nil, Bool.and_true]
  split <;> simp

theorem indent_of_oneLine (h : OneLine row.toList) : indent margin row = indentRow margin row := by
  by_cases hnil : row.toList = []
  · rw [String.toList_eq_nil_iff.mp hnil]
    rfl
  · rw [indent, lines_of_oneLine h hnil]
    simp only [List.flatMap_cons, List.flatMap_nil, List.append_nil, indentLine, indentRow]
    split <;> simp

theorem indent_append (h : OneLine row.toList) (text : String) :
    indent margin (row ++ "\n" ++ text) = indentRow margin row ++ "\n" ++ indent margin text := by
  have hlines : lines (row ++ "\n" ++ text).toList =
      (row.toList ++ ['\n']) :: lines text.toList := by
    rw [String.append_assoc, String.toList_append, String.toList_append]
    exact lines_append_cons h text.toList
  rw [indent, hlines, List.flatMap_cons, indentLine_append, String.ofList_append,
    String.ofList_append, String.ofList_toList, String.ofList_toList]
  rfl

/-- A text keeps its end behind a margin. -/
theorem exists_indent_append (h : OneLine row.toList) (hne : row ≠ "") (text : String) :
    ∃ start, indent margin (text ++ row) = start ++ row := by
  have hnil : row.toList ≠ [] := mt String.toList_eq_nil_iff.mp hne
  obtain ⟨before, line, hlines⟩ := exists_lines_append h hnil text.toList
  have hline : ∃ cs, indentLine margin.toList (line ++ row.toList) = cs ++ row.toList := by
    unfold indentLine
    split
    · exact ⟨line, rfl⟩
    · exact ⟨margin.toList ++ line, by rw [List.append_assoc]⟩
  obtain ⟨cs, hcs⟩ := hline
  refine ⟨String.ofList (before.flatMap (indentLine margin.toList) ++ cs), ?_⟩
  rw [indent, String.toList_append, hlines, List.flatMap_append, List.flatMap_singleton, hcs,
    ← List.append_assoc, String.ofList_append, String.ofList_toList]

/-- A margin goes in front of every row of a text. -/
theorem indent_joinWith (rest : List String) (hne : rest ≠ [])
    (h : ∀ row ∈ rest, OneLine row.toList) :
    indent margin (joinWith "\n" rest) ++ "\n" = page (rest.map (indentRow margin)) := by
  induction rest with
  | nil => exact absurd rfl hne
  | cons row rest ih =>
    obtain ⟨hrow, hrest⟩ := List.forall_mem_cons.mp h
    match rest with
    | [] => simp [joinWith, indent_of_oneLine hrow, page, concat]
    | next :: rest =>
      rw [joinWith_cons_cons, indent_append hrow, String.append_assoc, ih (by simp) hrest]
      rfl

section Visible

variable {a b : List String}

/-- A row that is not blank. -/
def IsVisible (row : String) : Prop :=
  OneLine row.toList ∧ ∃ c ∈ row.toList, Character.isBlank c = false

/-- What the rows of a text behind a margin are. -/
theorem rows_indent (hmargin : OneLine margin.toList) (h : ∀ row ∈ a, IsVisible row) :
    rows (indent margin (joinWith "\n" a) ++ "\n") =
      if a = [] then [""] else a.map (margin ++ ·) := by
  split
  · next hnil =>
    have hpage : indent margin (joinWith "\n" []) ++ "\n" = page [""] := by
      rw [joinWith, indent_empty]
      simp [page, concat]
    rw [hnil, hpage, rows_page (by simp)]
  · next hne =>
    have hrows : a.map (indentRow margin) = a.map (margin ++ ·) := by
      refine List.map_congr_left fun row hrow => ?_
      obtain ⟨c, hc, hvisible⟩ := (h row hrow).2
      exact indentRow_eq hc hvisible
    rw [indent_joinWith a hne fun row hrow => (h row hrow).1, rows_page, hrows]
    exact List.forall_mem_map.mpr fun row hrow => oneLine_indentRow hmargin (h row hrow).1

theorem append_ne_empty {row : String} (h : IsVisible row) : margin ++ row ≠ "" := by
  obtain ⟨-, c, hc, -⟩ := h
  intro he
  have hnil := String.toList_eq_nil_iff.mpr he
  rw [String.toList_append, List.append_eq_nil_iff] at hnil
  rw [hnil.2] at hc
  cases hc

/-- Rows that are not blank can be told from their text, also behind a margin. -/
theorem indent_joinWith_inj (hmargin : OneLine margin.toList) (ha : ∀ row ∈ a, IsVisible row)
    (hb : ∀ row ∈ b, IsVisible row) :
    indent margin (joinWith "\n" a) = indent margin (joinWith "\n" b) ↔ a = b := by
  constructor
  · intro h
    have hrows := rows_indent hmargin ha
    rw [h, rows_indent hmargin hb] at hrows
    cases a with
    | nil =>
      cases b with
      | nil => rfl
      | cons row b =>
        exact absurd (List.cons.inj hrows).1 (append_ne_empty (hb row List.mem_cons_self))
    | cons row a =>
      cases b with
      | nil =>
        exact absurd (List.cons.inj hrows).1.symm (append_ne_empty (ha row List.mem_cons_self))
      | cons next b =>
        exact (List.map_inj_right fun x y => (String.append_right_inj margin).mp).mp hrows.symm
  · rintro rfl
    rfl

end Visible

end ApiStubs.Text
