import ApiStubs.Proofs.Toml.Bodies
import ApiStubs.Proofs.Toml.Misreads
import ApiStubs.Proofs.Toml.Pages

/-! # Rows of a file

Whatever stands between the marks of a setting, the first pass leaves its line with blanks in the
place of a comment, or joins it with the next one. A line that is joined holds text behind the mark
that closes its value, so no value is read from it.
-/

namespace ApiStubs.Toml

open Text

variable {l : Layout} {c d : Char} {after b before body cs m out p q r z : List Char}
  {pieces later : List (List Char)} {n : SettingName} {triples : Nat} {closed comment : Bool}

namespace Layout

section Steps

/-- A step writes one character, whatever it is. -/
theorem exists_step (h : clean? l comment before (c :: after) = some out) :
    ∃ l comment d, clean? l comment (d :: before) after = some out := by
  rw [clean?] at h
  dsimp only at h
  repeat' split at h
  all_goals first
    | exact ⟨_, _, _, h⟩
    | cases h

/-- What has been written stays in front of what is written later. -/
theorem exists_rest (h : clean? l comment before cs = some out) :
    ∃ rest, out = before.reverse ++ rest := by
  induction cs generalizing l comment before with
  | nil =>
    rw [clean?] at h
    split at h
    · cases h
    · exact ⟨[], by simpa using h.symm⟩
  | cons c after ih =>
    obtain ⟨l, comment, d, hafter⟩ := exists_step h
    obtain ⟨rest, rfl⟩ := ih hafter
    exact ⟨d :: rest, by simp⟩

/-- The layout behind the key of a line that opens no table. -/
structure Inside (l : Layout) : Prop where
  key : l.key = .none
  started : l.lineStart = false
  header : l.header = false
  tables : l.tables = false

theorem Inside.quoteStep (h : Inside l) (before : List Char) (c : Char) :
    Inside (l.quoteStep before c) := by
  unfold Layout.quoteStep
  dsimp only
  split
  · split
    · exact h
    · exact ⟨h.key, h.started, h.header, h.tables⟩
  · exact h

theorem Inside.bracketStep (h : Inside l) (before : List Char) (c : Char) (after : List Char) :
    Inside (l.bracketStep before c after) := by
  simp only [Layout.bracketStep, h.started, h.header, h.tables]
  repeat' split
  all_goals first
    | exact h
    | exact ⟨h.key, rfl, rfl, rfl⟩
    | contradiction

/-- Behind a key every character of the line is written as it is, unless it starts a comment. -/
theorem Inside.exists_clean? (hl : Inside l) (hc : c ≠ '\n')
    (h : clean? l false before (c :: after) = some out) :
    ∃ l', Inside l' ∧ (clean? l' false (c :: before) after = some out ∨
      c = '#' ∧ clean? l' true (' ' :: before) after = some out) := by
  have hquote := hl.quoteStep before c
  have hbracket := hquote.bracketStep before c after
  rw [clean?] at h
  simp only [Bool.false_and, Bool.false_eq_true, if_false, hl.key, ne_eq, not_true_eq_false,
    hc, hbracket.started] at h
  split at h
  · next hcomment => exact ⟨_, hquote, .inr ⟨hcomment.1, h⟩⟩
  · exact ⟨_, hbracket, .inl h⟩

/-- Nothing before the next value of a line means anything behind a key. -/
theorem Inside.clean?_label (hl : Inside l) (n : SettingName) (before z : List Char) :
    clean? l false before (n.label.toList ++ (" = ".toList ++ z)) =
      clean? l false ((n.label.toList ++ " = ".toList).reverse ++ before) z := by
  have hplain : ∀ p : List Char, (∀ c ∈ p, c ∉ ['\'', '"', '#', '[', ']', '\n']) →
      ∀ before, clean? l false before (p ++ z) = clean? l false (p.reverse ++ before) z := by
    intro p hp
    induction p with
    | nil => exact fun _ => rfl
    | cons c p ih =>
      obtain ⟨hc, hp⟩ := List.forall_mem_cons.mp hp
      intro before
      rw [List.cons_append, clean?_plain hl.key hl.started hc, ih hp]
      simp
  rw [← List.append_assoc]
  exact hplain _ (by cases n <;> exact List.all_iff_forall_prop.mp (by decide)) before

theorem Inside.exists_next (hl : Inside l)
    (h : clean? l false before (n.label.toList ++ (" = \"".toList ++ z)) = some out) :
    ∃ rest, out = before.reverse ++ (n.label.toList ++ (" = \"".toList ++ rest)) := by
  have hmark : n.label.toList ++ (" = \"".toList ++ z) =
      n.label.toList ++ (" = ".toList ++ '"' :: z) := rfl
  rw [hmark, hl.clean?_label] at h
  obtain ⟨l', -, hopen | ⟨hcomment, -⟩⟩ := hl.exists_clean? (by decide) h
  · obtain ⟨rest, rfl⟩ := exists_rest hopen
    exact ⟨rest, by simp⟩
  · cases hcomment

/-- A comment goes on to the end of its line. -/
theorem clean?_comment (hq : '\n' ∉ q) :
    clean? l true before (q ++ '\n' :: z) =
      clean? l false (List.replicate q.length ' ' ++ before) ('\n' :: z) := by
  induction q generalizing before with
  | nil => simp [clean?]
  | cons c q ih =>
    obtain ⟨hc, hq⟩ := List.ne_and_not_mem_of_not_mem_cons hq
    rw [List.cons_append, clean?, if_pos (by simpa using hc.symm), ih hq, List.length_cons,
      List.replicate_succ', List.append_assoc]
    rfl

/-- A line behind a key ends outside strings. -/
theorem Inside.exists_newLine (hl : Inside l)
    (h : clean? l false before ('\n' :: z) = some out) :
    l.quote = none ∧ clean? l.newLine.1 false (l.newLine.2 :: before) z = some out := by
  have hquote : l.quoteStep before '\n' = l := by simp [Layout.quoteStep]
  have hbracket : l.bracketStep before '\n' z = l := by simp [Layout.bracketStep]
  simp only [clean?, hl.key, hquote, hbracket] at h
  cases hq : l.quote with
  | some mark => simp [hq] at h
  | none =>
    refine ⟨rfl, ?_⟩
    cases ht : l.tripled with
    | true => simp [hq, ht] at h
    | false => simpa [hq, ht] using h

/-- A line is written up to a comment, and ends there. -/
theorem Inside.exists_line (hl : Inside l) (hq : '\n' ∉ q)
    (h : clean? l false before (q ++ '\n' :: z) = some out) :
    ∃ l' p r, q = p ++ r ∧ Inside l' ∧ l'.quote = none ∧
      clean? l'.newLine.1 false
        (l'.newLine.2 :: (List.replicate r.length ' ' ++ (p.reverse ++ before))) z = some out := by
  induction q generalizing l before with
  | nil =>
    obtain ⟨hquote, hnext⟩ := hl.exists_newLine h
    exact ⟨l, [], [], rfl, hl, hquote, hnext⟩
  | cons c q ih =>
    obtain ⟨hc, hrest⟩ := List.ne_and_not_mem_of_not_mem_cons hq
    rw [List.cons_append] at h
    obtain ⟨l', hl', hnext | ⟨-, hnext⟩⟩ := hl.exists_clean? hc.symm h
    · obtain ⟨l'', p, r, rfl, hl'', hquote, hline⟩ := ih hl' hrest hnext
      exact ⟨l'', c :: p, r, rfl, hl'', hquote, by simpa using hline⟩
    · rw [clean?_comment hrest] at hnext
      obtain ⟨hquote, hline⟩ := hl'.exists_newLine hnext
      refine ⟨l', [], c :: q, rfl, hl', hquote, ?_⟩
      rw [List.length_cons, List.replicate_succ', List.append_assoc]
      exact hline

end Steps

section Closing

/-- A line that ends outside strings has a mark that closes the string at its start. -/
theorem Inside.exists_closing (hl : Inside l) (hquote : l.quote = some '"') (hq : '\n' ∉ q)
    (h : clean? l false before (q ++ '\n' :: z) = some out) :
    ∃ l' b q', q = b ++ '"' :: q' ∧ oddBehind false (before.reverse ++ b) = false ∧ Inside l' ∧
      clean? l' false ('"' :: (b.reverse ++ before)) (q' ++ '\n' :: z) = some out := by
  induction q generalizing l before with
  | nil =>
    rw [(hl.exists_newLine h).1] at hquote
    cases hquote
  | cons c q ih =>
    obtain ⟨hc, hrest⟩ := List.ne_and_not_mem_of_not_mem_cons hq
    by_cases hmark : c = '"'
    · subst hmark
      have hstep : clean? (l.quoteStep before '"') false ('"' :: before) (q ++ '\n' :: z) =
          some out := by
        have hbracket : (l.quoteStep before '"').bracketStep before '"' (q ++ '\n' :: z) =
            l.quoteStep before '"' := by simp [Layout.bracketStep]
        simpa [clean?, hl.key, hbracket, (hl.quoteStep before '"').started] using h
      by_cases hinside : (l.quoteStep before '"').quote = some '"'
      · obtain ⟨l', b, q', rfl, hodd, hl', hclean⟩ := ih (hl.quoteStep _ _) hinside hrest hstep
        exact ⟨l', '"' :: b, q', rfl, by simpa using hodd, hl', by simpa using hclean⟩
      · refine ⟨_, [], q, rfl, ?_, hl.quoteStep _ _, hstep⟩
        rw [List.append_nil, Bool.eq_false_iff]
        intro hodd
        rw [quoteStep_escaped hquote hodd] at hinside
        exact hinside hquote
    · rw [List.cons_append, clean?_inside hl.key hl.started hquote hmark hc.symm] at h
      obtain ⟨l', b, q', rfl, hodd, hl', hclean⟩ := ih hl hquote hrest h
      exact ⟨l', c :: b, q', rfl, by simpa using hodd, hl', by simpa using hclean⟩

end Closing

end Layout

section Values

theorem closedWell_cons (closed : Bool) (triples : Nat) (p : List Char)
    (pieces : List (List Char)) :
    closedWell false closed triples (p :: pieces) =
      ((p.isEmpty || endsInOddBackslash p || !closed) &&
        closedWell false (closed || !endsInOddBackslash p) triples pieces) := by
  have hempty : endsInOddBackslash [] = false := rfl
  cases p with
  | nil => simp [closedWell, hempty]
  | cons c p =>
    cases hodd : endsInOddBackslash (c :: p) <;> cases closed <;> simp [closedWell, hodd]

/-- No text follows a mark that closes a value, so all marks before a text are escaped. -/
theorem escaped_of_closedWell (h : closedWell false closed triples (pieces ++ p :: later) = true)
    (hp : p ≠ []) (hend : endsInOddBackslash p = false) :
    closed = false ∧ ∀ q ∈ pieces, endsInOddBackslash q = true := by
  induction pieces generalizing closed with
  | nil =>
    rw [List.nil_append, closedWell_cons, Bool.and_eq_true] at h
    simpa [hp, hend] using h.1
  | cons q pieces ih =>
    rw [List.cons_append, closedWell_cons, Bool.and_eq_true] at h
    obtain ⟨hclosed, hpieces⟩ := ih h.2
    simp only [Bool.or_eq_false_iff, Bool.not_eq_false'] at hclosed
    exact ⟨hclosed.1, List.forall_mem_cons.mpr ⟨hclosed.2, hpieces⟩⟩

theorem exists_last_piece (sep : Char) (cs : List Char) :
    ∃ pieces p, splitOn sep cs = pieces ++ [p] ∧
      (pieces = [] ∧ cs = p ∨ pieces ≠ [] ∧ ∃ a, cs = a ++ sep :: p) := by
  induction cs with
  | nil => exact ⟨[], [], rfl, .inl ⟨rfl, rfl⟩⟩
  | cons c cs ih =>
    obtain ⟨pieces, p, hsplit, hlast⟩ := ih
    by_cases hc : c = sep
    · subst hc
      refine ⟨[] :: pieces, p, by rw [splitOn_cons_self, hsplit]; rfl, .inr ⟨by simp, ?_⟩⟩
      rcases hlast with ⟨-, rfl⟩ | ⟨-, a, rfl⟩
      · exact ⟨[], rfl⟩
      · exact ⟨c :: a, rfl⟩
    · rcases hlast with ⟨rfl, rfl⟩ | ⟨hne, a, rfl⟩
      · exact ⟨[], c :: cs, by rw [splitOn_cons_of_ne hc, hsplit]; rfl, .inl ⟨rfl, rfl⟩⟩
      · obtain ⟨w, ws, rfl⟩ := List.exists_cons_of_ne_nil hne
        exact ⟨(c :: w) :: ws, p, by rw [splitOn_cons_of_ne hc, hsplit]; rfl,
          .inr ⟨by simp, c :: a, rfl⟩⟩

/-- The last piece before a mark ends as the text before it. -/
theorem exists_last_piece_mark (cs : List Char) :
    ∃ pieces p, splitOn '"' cs = pieces ++ [p] ∧ endsInOddBackslash p = oddBehind false cs ∧
      (p = [] → cs.getLast? ∈ [none, some '"']) := by
  obtain ⟨pieces, p, hsplit, ⟨-, rfl⟩ | ⟨-, a, rfl⟩⟩ := exists_last_piece '"' cs
  · exact ⟨pieces, cs, hsplit, endsInOddBackslash_eq cs, by rintro rfl; simp⟩
  · refine ⟨pieces, p, hsplit, ?_, by rintro rfl; simp⟩
    rw [endsInOddBackslash_eq, oddBehind_append]
    rfl

/-- A value with text between the mark that closes it and another mark is none. -/
theorem isClosed_stray (hstart : Unmarked b) (hodd : oddBehind false b = false)
    (z : List Char) : isClosed ('"' :: (b ++ '"' :: (m ++ ' ' :: '"' :: z))) = false := by
  obtain ⟨before, p, hbefore, hp, -⟩ := exists_last_piece_mark b
  obtain ⟨between, q, hbetween, hq, hempty⟩ := exists_last_piece_mark (m ++ [' '])
  have hpieces : splitOn '"' (b ++ '"' :: (m ++ ' ' :: '"' :: z)) =
      (before ++ p :: between) ++ q :: splitOn '"' z := by
    have hmiddle : m ++ ' ' :: '"' :: z = (m ++ [' ']) ++ '"' :: z := by simp
    rw [splitOn_append_cons, hbefore, hmiddle, splitOn_append_cons, hbetween]
    simp
  have hend : endsInOddBackslash q = false := by
    rw [hq, oddBehind_append]
    rfl
  have hne : q ≠ [] := fun he => absurd (hempty he) (by simp)
  have hopen : isClosed ('"' :: (b ++ '"' :: (m ++ ' ' :: '"' :: z))) =
      closedWell false false 0 (splitOn '"' (b ++ '"' :: (m ++ ' ' :: '"' :: z))) := by
    obtain ⟨c, hc, hmark⟩ := hstart
    obtain ⟨b, rfl⟩ := List.head?_eq_some_iff.mp hc
    rw [isClosed, List.drop_succ_cons, List.drop_zero, List.cons_append, splitOn_cons_of_ne hmark]
    cases hs : splitOn '"' (b ++ '"' :: (m ++ ' ' :: '"' :: z)) with
    | nil => exact absurd hs (splitOn_ne_nil _ _)
    | cons w ws => rfl
  rw [hopen, hpieces, Bool.eq_false_iff]
  intro hclosed
  have hescaped := (escaped_of_closedWell hclosed hne hend).2 p (by simp)
  rw [hp, hodd] at hescaped
  cases hescaped

theorem readString?_stray (hstart : Unmarked b) (hodd : oddBehind false b = false)
    (m z : List Char) :
    readString? '"' (trim ('"' :: (b ++ '"' :: (m ++ ' ' :: '"' :: z)))) = none := by
  obtain ⟨value, -, -, hend⟩ := exists_trim_mark z
  have hcut := hend ('"' :: (b ++ '"' :: (m ++ [' '])))
  have hvalue : trim ('"' :: (b ++ '"' :: (m ++ ' ' :: '"' :: z))) =
      '"' :: (b ++ '"' :: (m ++ ' ' :: '"' :: value)) := by
    rw [trim_cons (by decide)]
    simpa using hcut
  rw [hvalue, readString?_eq, isClosed_stray hstart hodd]
  rfl

end Values

section Rows

/-- What the first pass has written at the end of the line of a setting. -/
theorem Layout.exists_written (hbody : '\n' ∉ body)
    (h : clean? {} false before (lineOf n body ++ z) = some out) :
    ∃ l b p r, body ++ ['"'] = b ++ '"' :: (p ++ r) ∧ oddBehind false b = false ∧ Inside l ∧
      l.quote = none ∧ clean? l.newLine.1 false (l.newLine.2 ::
        ((n.label.toList ++ (" = \"".toList ++
          (b ++ '"' :: (p ++ List.replicate r.length ' ')))).reverse ++ before)) z = some out := by
  have hline : lineOf n body ++ z =
      n.label.toList ++ (" = \"".toList ++ ((body ++ ['"']) ++ '\n' :: z)) := by
    simp [lineOf]
  have hinside : Inside { lineStart := false, brackets := 0, quote := some '"' } :=
    ⟨rfl, rfl, rfl, rfl⟩
  have hplain : '\n' ∉ body ++ ['"'] := by simpa using hbody
  rw [hline, clean?_label] at h
  obtain ⟨l, b, q, hq, hodd, hl, hclosed⟩ := hinside.exists_closing rfl hplain h
  have hrest : '\n' ∉ q := by
    rw [hq] at hplain
    exact fun hmem => hplain (List.mem_append_right _ (.tail _ hmem))
  obtain ⟨l', p, r, rfl, hl', hquote, hwritten⟩ := hl.exists_line hrest hclosed
  refine ⟨l', b, p, r, hq, ?_, hl', hquote, ?_⟩
  · rw [List.reverse_cons, oddBehind_append, oddBehind_append] at hodd
    exact hodd
  · simpa using hwritten

theorem weigh_blanks (n : Nat) (e : Bool) : weigh e (List.replicate n ' ') = 0 := by
  have hblank : plainWeight ' ' = 0 ∧ escapedWeight ' ' = 0 := by decide
  induction n generalizing e with
  | zero => rfl
  | succ n ih => cases e <;> simp [List.replicate_succ, weigh, hblank, ih]

theorem weigh_trim_mark (cs : List Char) :
    weigh false (trim ('"' :: cs)) ≤ weigh false ('"' :: cs) := by
  rw [trim_cons (by decide)]
  obtain ⟨cut, hcut⟩ := List.rdropWhile_prefix Character.isBlank ('"' :: cs)
  exact Nat.le_trans (weigh_append_left false _ cut) (Nat.le_of_eq (congrArg _ hcut))

/-- Blanks weigh nothing, so a value with blanks at its end gives no text that costs more than any
value that it starts weighs. -/
theorem cost_of_blanked {v : String} {k : Nat}
    (hv : readString? '"' (trim ('"' :: (p ++ List.replicate k ' '))) = some v) (q : List Char) :
    cost v.toList ≤ weigh false ('"' :: (p ++ q)) := by
  have hblank : ∀ e, weigh e (List.replicate k ' ') + 0 ≤ weigh e q := by
    intro e
    rw [weigh_blanks]
    exact Nat.zero_le _
  calc cost v.toList ≤ weigh false (trim ('"' :: (p ++ List.replicate k ' '))) :=
        cost_readString? hv
    _ ≤ weigh false ('"' :: (p ++ List.replicate k ' ')) := weigh_trim_mark _
    _ ≤ weigh false ('"' :: (p ++ q)) := weigh_append hblank false ('"' :: p)

/-- The row of a setting gives it no text that costs more than its value weighs, or none at all if
the next line has been joined to it. -/
theorem Layout.exists_row (hstart : Unmarked body) (hbody : '\n' ∉ body)
    (hz : z = [] ∨ ∃ (n : SettingName) (z' : List Char),
      z = n.label.toList ++ (" = \"".toList ++ z'))
    (h : clean? {} false before (lineOf n body ++ z) = some out) :
    ∃ after r rows, out = before.reverse ++ after ∧
      splitOn '\n' after = (n.label.toList ++ (" = \"".toList ++ r)) :: rows ∧
      ∀ v, readString? '"' (trim ('"' :: r)) = some v →
        cost v.toList ≤ weigh false ('"' :: (body ++ ['"'])) := by
  obtain ⟨l, b, p, q, hq, hodd, hl, hquote, hwritten⟩ := exists_written hbody h
  generalize hrow : b ++ '"' :: (p ++ List.replicate q.length ' ') = row at hwritten
  have hplain : '\n' ∉ n.label.toList ++ (" = \"".toList ++ row) := by
    have hlabel : '\n' ∉ n.label.toList := by cases n <;> decide
    have hparts : '\n' ∉ b ++ '"' :: (p ++ q) := hq ▸ by simpa using hbody
    have hblanks : '\n' ∉ List.replicate q.length ' ' := by simp
    simp only [List.mem_append, List.mem_cons, not_or] at hparts
    simp only [← hrow, List.mem_append, List.mem_cons, not_or]
    exact ⟨hlabel, by decide, hparts.1, hparts.2.1, hparts.2.2.1, hblanks⟩
  have hlight : ∀ k v, readString? '"' (trim ('"' :: (row ++ List.replicate k ' '))) = some v →
      cost v.toList ≤ weigh false ('"' :: (body ++ ['"'])) := by
    intro k v hv
    have hvalue : row ++ List.replicate k ' ' =
        b ++ '"' :: p ++ List.replicate (q.length + k) ' ' := by simp [← hrow]
    have hwhole : body ++ ['"'] = b ++ '"' :: p ++ q := by simp [hq]
    rw [hvalue] at hv
    exact hwhole ▸ cost_of_blanked hv q
  by_cases hbrackets : l.brackets = 0
  · have hnext : l.newLine = ({ l with lineStart := true }, '\n') :=
      if_neg (by simpa using hbrackets)
    rw [hnext] at hwritten
    obtain ⟨rest, rfl⟩ := exists_rest hwritten
    refine ⟨(n.label.toList ++ (" = \"".toList ++ row)) ++ '\n' :: rest, row, splitOn '\n' rest,
      by simp, ?_, by simpa using hlight 0⟩
    rw [splitOn_append_cons, splitOn_of_not_mem hplain]
    rfl
  have hnext : l.newLine = (l, ' ') := if_pos hbrackets
  rw [hnext] at hwritten
  rcases hz with rfl | ⟨n', z', rfl⟩
  · have hout : before.reverse ++ (n.label.toList ++ (" = \"".toList ++ (row ++ [' ']))) = out := by
      simpa [clean?, hl.key, hquote] using hwritten
    refine ⟨n.label.toList ++ (" = \"".toList ++ (row ++ [' '])), row ++ [' '], [], hout.symm, ?_,
      hlight 1⟩
    rw [splitOn_of_not_mem]
    simpa using hplain
  · obtain ⟨rest, rfl⟩ := hl.exists_next hwritten
    obtain ⟨w, ws, hrest⟩ := List.exists_cons_of_ne_nil (splitOn_ne_nil '\n' rest)
    have hlabel : '\n' ∉ n'.label.toList ++ " = \"".toList := by cases n' <;> decide
    have hjoined : '\n' ∉ n.label.toList ++ (" = \"".toList ++ row) ++
        ' ' :: (n'.label.toList ++ " = \"".toList) := by
      simp only [List.mem_append, List.mem_cons, not_or] at hplain hlabel ⊢
      exact ⟨hplain, by decide, hlabel⟩
    refine ⟨n.label.toList ++ (" = \"".toList ++ row) ++
        ' ' :: (n'.label.toList ++ " = \"".toList) ++ rest,
      row ++ ' ' :: (n'.label.toList ++ (" = \"".toList ++ w)), ws, by simp, ?_, ?_⟩
    · rw [splitOn_append_of_not_mem hjoined, hrest]
      simp
    · intro v hv
      have hstray := readString?_stray (hstart.before_mark hq) hodd
        (p ++ List.replicate q.length ' ' ++ ' ' :: (n'.label.toList ++ " =".toList)) w
      have hvalue : row ++ ' ' :: (n'.label.toList ++ (" = \"".toList ++ w)) =
          b ++ '"' :: (p ++ List.replicate q.length ' ' ++
            ' ' :: (n'.label.toList ++ " =".toList) ++ ' ' :: '"' :: w) := by
        simp [← hrow]
      rw [hvalue, hstray] at hv
      cases hv

end Rows

end ApiStubs.Toml
