/-!
# Decoding bytes

Bytes read as UTF-8 with one replacement character for every stretch that cannot be part of a
character.
-/

namespace ApiStubs

namespace Text

/-- For a leading byte: the bits it carries, how many bytes follow, and the range of the first of
them. -/
def leading? (b : Nat) : Option (Nat × Nat × Nat × Nat) :=
  if 0xC2 ≤ b ∧ b ≤ 0xDF then some (b - 0xC0, 1, 0x80, 0xBF)
  else if b = 0xE0 then some (0, 2, 0xA0, 0xBF)
  else if b = 0xED then some (0xD, 2, 0x80, 0x9F)
  else if 0xE1 ≤ b ∧ b ≤ 0xEF then some (b - 0xE0, 2, 0x80, 0xBF)
  else if b = 0xF0 then some (0, 3, 0x90, 0xBF)
  else if 0xF1 ≤ b ∧ b ≤ 0xF3 then some (b - 0xF0, 3, 0x80, 0xBF)
  else if b = 0xF4 then some (4, 3, 0x80, 0x8F)
  else none

/-- The state between two bytes: the bits so far, how many bytes are due and the range of the next
one. -/
structure Pending where
  bits : Nat
  due : Nat
  lo : Nat
  hi : Nat

/-- What one byte adds when nothing is due. -/
def freshByte (b : Nat) : List Char × Option Pending :=
  if b < 0x80 then ([Char.ofNat b], none)
  else
    match leading? b with
    | some (bits, due, lo, hi) => ([], some ⟨bits, due, lo, hi⟩)
    | none => (['\uFFFD'], none)

/-- The characters of some bytes, after the bytes that are pending. -/
def decodeFrom : Option Pending → List Nat → List Char
  | none, [] => []
  | some _, [] => ['\uFFFD']
  | none, b :: rest => (freshByte b).1 ++ decodeFrom (freshByte b).2 rest
  | some p, b :: rest =>
    if p.lo ≤ b ∧ b ≤ p.hi then
      let bits := p.bits * 64 + (b - 0x80)
      if p.due = 1 then Char.ofNat bits :: decodeFrom none rest
      else decodeFrom (some ⟨bits, p.due - 1, 0x80, 0xBF⟩) rest
    else '\uFFFD' :: ((freshByte b).1 ++ decodeFrom (freshByte b).2 rest)

/-- The characters of some bytes. -/
def decodeReplacing (bytes : List Nat) : List Char :=
  decodeFrom none bytes

end Text

end ApiStubs
