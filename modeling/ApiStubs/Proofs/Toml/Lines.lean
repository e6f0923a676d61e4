import ApiStubs.Proofs.Toml.Values
import ApiStubs.Settings

/-! # Layout of written settings

A setting stands on a line of its own, with its text between two marks. The first pass over a file
leaves such a line as it is, since every mark of the text is escaped and everything else between the
marks means nothing to the layout.
-/

namespace ApiStubs.Toml

open Text

variable {l : Layout} {c d : Char} {cs p read before z : List Char} {n : SettingName}
  {comment : Bool}

namespace Layout

/-- Outside strings a character that is no mark, bracket or break means nothing behind a key. -/
theorem clean?_plain (hkey : l.key = .none) (hstart : l.lineStart = false)
    (h : c ∉ ['\'', '"', '#', '[', ']', '\n']) :
    clean? l false before (c :: z) = clean? l false (c :: before) z := by
  simp only [List.mem_cons, List.not_mem_nil, or_false, not_or] at h
  simp [clean?, quoteStep, bracketStep, hkey, hstart, h]

/-- Inside a string only its mark and a break mean anything. -/
theorem clean?_inside (hkey : l.key = .none) (hstart : l.lineStart = false)
    (hquote : l.quote = some '"') (hmark : c ≠ '"') (hline : c ≠ '\n') :
    clean? l false before (c :: z) = clean? l false (c :: before) z := by
  have hstep : l.quoteStep before c = l := by
    rw [quoteStep, if_neg]
    rintro (⟨-, hq⟩ | ⟨hc, -⟩)
    · exact hq hquote
    · exact hmark hc
  simp [clean?, bracketStep, hkey, hstart, hquote, hstep, hline]

theorem clean?_inside_append (hkey : l.key = .none) (hstart : l.lineStart = false)
    (hquote : l.quote = some '"') (hmark : '"' ∉ p) (hline : '\n' ∉ p) :
    clean? l false before (p ++ z) = clean? l false (p.reverse ++ before) z := by
  induction p generalizing before with
  | nil => rfl
  | cons c p ih =>
    obtain ⟨hc, hp⟩ := List.ne_and_not_mem_of_not_mem_cons hmark
    obtain ⟨hcline, hpline⟩ := List.ne_and_not_mem_of_not_mem_cons hline
    rw [List.cons_append, clean?_inside hkey hstart hquote hc.symm hcline.symm, ih hp hpline,
      List.reverse_cons, List.append_assoc]
    rfl

/-- An escaped mark closes no string. -/
theorem quoteStep_escaped (hquote : l.quote = some '"')
    (hodd : oddBehind false before.reverse = true) : l.quoteStep before '"' = l := by
  have hescapes : (before.takeWhile (· = '\\')).length % 2 = 1 := by
    simpa [← endsInOddBackslash_eq, endsInOddBackslash] using hodd
  have hrow : (before.takeWhile (· = '"')).length = 0 := by
    cases before with
    | nil => rfl
    | cons c before =>
      have hc : c = '\\' := by
        by_contra hc
        simp [hc] at hescapes
      simp [hc]
  simp [quoteStep, hquote, hrow, hescapes]

theorem clean?_escaped (hkey : l.key = .none) (hstart : l.lineStart = false)
    (hquote : l.quote = some '"') (hodd : oddBehind false before.reverse = true) :
    clean? l false before ('"' :: z) = clean? l false ('"' :: before) z := by
  simp [clean?, bracketStep, hkey, hstart, hquote, quoteStep_escaped hquote hodd]

/-- A mark can close a string behind a text: it is not escaped, and at most one mark stands directly
before it. -/
structure Closable (before : List Char) : Prop where
  marks : (before.takeWhile (· = '"')).length ≤ 1
  slashes : oddBehind false before.reverse = false

theorem clean?_closing (hkey : l.key = .none) (hstart : l.lineStart = false)
    (hquote : l.quote = some '"') (h : Closable before) :
    clean? l false before ('"' :: z) = clean? { l with quote := none } false ('"' :: before) z := by
  have hescapes : (before.takeWhile (· = '"')).length = 0 →
      ¬(before.takeWhile (· = '\\')).length % 2 = 1 := by
    intro _ hodd
    have heven := h.slashes
    rw [← endsInOddBackslash_eq] at heven
    simp [endsInOddBackslash, hodd] at heven
  have hstep : l.quoteStep before '"' = { l with quote := none } := by
    rcases Nat.le_one_iff_eq_zero_or_eq_one.mp h.marks with hrow | hrow
    · simp [quoteStep, hquote, hrow, hescapes hrow]
    · simp [quoteStep, hquote, hrow]
  simp [clean?, bracketStep, hkey, hstart, hstep]

/-- The end of a line outside strings. -/
theorem clean?_newLine (hkey : l.key = .none) (hquote : l.quote = none)
    (htripled : l.tripled = false) :
    clean? l comment before ('\n' :: z) =
      clean? l.newLine.1 false (l.newLine.2 :: before) z := by
  cases comment <;> simp [clean?, quoteStep, bracketStep, hkey, hquote, htripled]

/-- A key with the start of a string behind it. -/
theorem clean?_label (n : SettingName) (b : Int) (before z : List Char) :
    clean? { brackets := b } false before (n.label.toList ++ (" = \"".toList ++ z)) =
      clean? { lineStart := false, brackets := b, quote := some '"' } false
        ('"' :: ' ' :: '=' :: ' ' :: (n.label.toList.reverse ++ before)) z := by
  cases n <;> rfl

/-- A spelling without marks leaves a string closable. -/
theorem Closable.spelling (h : Closable before) (hp : Spelling read c p) (hc : c ≠ '"') :
    Closable (p.reverse ++ before) := by
  have hmark := hp.mark_not_mem hc
  refine ⟨?_, ?_⟩
  · obtain ⟨q, d, rfl⟩ : ∃ q d, p = q ++ [d] := by
      obtain ⟨d, q, rfl, -⟩ := hp.exists_cons
      exact ⟨_, _, (List.dropLast_append_getLast (by simp)).symm⟩
    have hd : d ≠ '"' := fun he => hmark (by simp [he])
    simp [hd]
  · rw [List.reverse_append, List.reverse_reverse, oddBehind_append, h.slashes, hp.oddBehind]

/-- A text in marks stays as it is, and the string can be closed behind it. -/
theorem clean?_written (hkey : l.key = .none) (hstart : l.lineStart = false)
    (hquote : l.quote = some '"') (h : Closable before) (cs z : List Char) :
    Closable ((cs.flatMap (quotedChar '"')).reverse ++ before) ∧
      clean? l false before (cs.flatMap (quotedChar '"') ++ z) =
        clean? l false ((cs.flatMap (quotedChar '"')).reverse ++ before) z := by
  induction cs generalizing before with
  | nil => exact ⟨h, rfl⟩
  | cons c cs ih =>
    by_cases hc : c = '"'
    · have hquoted : quotedChar '"' c = ['\\', '"'] := by rw [hc]; rfl
      have hodd : oddBehind false ('\\' :: before).reverse = true := by
        rw [List.reverse_cons, oddBehind_append, h.slashes]
        rfl
      have hnext : Closable ('"' :: '\\' :: before) := by
        refine ⟨by simp, ?_⟩
        rw [List.reverse_cons, oddBehind_append]
        rfl
      obtain ⟨hclosable, hrest⟩ := ih hnext
      have hstep : clean? l false before ('\\' :: '"' :: (cs.flatMap (quotedChar '"') ++ z)) =
          clean? l false ('"' :: '\\' :: before) (cs.flatMap (quotedChar '"') ++ z) := by
        rw [clean?_inside hkey hstart hquote (by decide) (by decide),
          clean?_escaped hkey hstart hquote hodd]
      simp only [List.flatMap_cons, hquoted, List.reverse_append, List.append_assoc]
      exact ⟨hclosable, hstep.trans hrest⟩
    · have hp := spelling_quoted c
      obtain ⟨hclosable, hrest⟩ := ih (h.spelling hp hc)
      simp only [List.flatMap_cons, List.reverse_append, List.append_assoc]
      refine ⟨hclosable, ?_⟩
      rw [clean?_inside_append hkey hstart hquote (hp.mark_not_mem hc)
        (hp.break_not_mem (by decide)), hrest]

end Layout

/-- The line of a setting with a written value. -/
def lineOf (n : SettingName) (body : List Char) : List Char :=
  n.label.toList ++ (" = \"".toList ++ (body ++ ['"', '\n']))

/-- The line of a setting stays as it is. -/
theorem Layout.clean?_lineOf (n : SettingName) (cs before z : List Char) :
    clean? {} false before (lineOf n (cs.flatMap (quotedChar '"')) ++ z) =
      clean? {} false ((lineOf n (cs.flatMap (quotedChar '"'))).reverse ++ before) z := by
  have hopen : Closable ('"' :: ' ' :: '=' :: ' ' :: (n.label.toList.reverse ++ before)) := by
    refine ⟨by simp, ?_⟩
    rw [List.reverse_cons, oddBehind_append]
    rfl
  obtain ⟨hclosable, hbody⟩ := clean?_written (l := { lineStart := false, quote := some '"' })
    rfl rfl rfl hopen cs ('"' :: '\n' :: z)
  have hline : lineOf n (cs.flatMap (quotedChar '"')) ++ z = n.label.toList ++
      (" = \"".toList ++ (cs.flatMap (quotedChar '"') ++ '"' :: '\n' :: z)) := by
    simp [lineOf]
  rw [hline, clean?_label, hbody, clean?_closing rfl rfl rfl hclosable,
    clean?_newLine rfl rfl rfl]
  simp [lineOf, newLine]

end ApiStubs.Toml
