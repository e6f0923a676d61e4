import ApiStubs.Text.Percent

/-! # Percent escapes behind plain text

Decoding leaves the ASCII characters in front of the first percent sign as they are, and a text
without a percent sign as a whole.
-/

namespace ApiStubs

namespace Text

variable {c : Char} {cs run : List Char}

theorem percentByte?_of_ne (h : c ≠ '%') : percentByte? (c :: cs) = none := by
  unfold percentByte?
  split
  · next he => exact absurd (List.cons.inj he).1 h
  · rfl

theorem percentBytes_append (h : '%' ∉ run) :
    percentBytes (run ++ cs).length (run ++ cs) =
      run.map Char.toNat ++ percentBytes cs.length cs := by
  induction run with
  | nil => rfl
  | cons c run ih =>
    obtain ⟨hc, hrun⟩ := List.ne_and_not_mem_of_not_mem_cons h
    rw [List.cons_append, List.length_cons, percentBytes, percentByte?_of_ne (Ne.symm hc)]
    exact congrArg (c.toNat :: ·) (ih hrun)

theorem decodeFrom_append (h : ∀ c ∈ run, isAscii c = true) (bytes : List Nat) :
    decodeFrom none (run.map Char.toNat ++ bytes) = run ++ decodeFrom none bytes := by
  induction run with
  | nil => rfl
  | cons c run ih =>
    obtain ⟨hc, hrun⟩ := List.forall_mem_cons.mp h
    have hbyte : c.toNat < 0x80 := of_decide_eq_true hc
    have hfresh : freshByte c.toNat = ([c], none) := by
      rw [freshByte, if_pos hbyte, Char.ofNat_toNat]
    rw [List.map_cons, List.cons_append, decodeFrom, hfresh, ih hrun]
    rfl

theorem percentRun_append (h : '%' ∉ run) (ha : ∀ c ∈ run, isAscii c = true) :
    percentRun (run ++ cs) = run ++ percentRun cs := by
  rw [percentRun, percentBytes_append h, decodeReplacing, decodeFrom_append ha]
  rfl

/-- What has been read first stays in front. -/
theorem percentDecodeFrom_append (h : '%' ∉ run) (ha : ∀ c ∈ run, isAscii c = true)
    (read : List Char) :
    percentDecodeFrom (read ++ run.reverse) cs = run ++ percentDecodeFrom read cs := by
  have hrun : percentRun (read ++ run.reverse).reverse = run ++ percentRun read.reverse := by
    rw [List.reverse_append, List.reverse_reverse, percentRun_append h ha]
  induction cs generalizing read with
  | nil => rw [percentDecodeFrom, percentDecodeFrom, hrun]
  | cons c cs ih =>
    rw [percentDecodeFrom, percentDecodeFrom]
    split
    · refine ih (c :: read) ?_
      rw [List.reverse_append, List.reverse_reverse, percentRun_append h ha]
    · rw [hrun, List.append_assoc]

theorem percentDecode_append (h : '%' ∉ run) (ha : ∀ c ∈ run, isAscii c = true) :
    percentDecode (run ++ cs) = run ++ percentDecode cs := by
  have hread : ∀ read, percentDecodeFrom read (run ++ cs) =
      percentDecodeFrom (run.reverse ++ read) cs := by
    clear h
    induction run with
    | nil => exact fun read => rfl
    | cons c run ih =>
      intro read
      obtain ⟨hc, hrun⟩ := List.forall_mem_cons.mp ha
      rw [List.cons_append, percentDecodeFrom, if_pos hc, ih hrun, List.reverse_cons,
        List.append_assoc]
      rfl
  rw [percentDecode, hread, List.append_nil]
  exact percentDecodeFrom_append h ha []

theorem percentDecode_eq_self (h : '%' ∉ cs) : percentDecode cs = cs := by
  induction cs with
  | nil => rfl
  | cons c cs ih =>
    obtain ⟨hc, hcs⟩ := List.ne_and_not_mem_of_not_mem_cons h
    by_cases hascii : isAscii c = true
    · have hhead : percentDecode ([c] ++ cs) = [c] ++ percentDecode cs :=
        percentDecode_append (by simpa using hc) (by simpa using hascii)
      rw [← List.singleton_append, hhead, ih hcs]
    · rw [percentDecode, percentDecodeFrom, if_neg hascii]
      exact congrArg (c :: ·) (ih hcs)

end Text

end ApiStubs
