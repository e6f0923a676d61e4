import ApiStubs.Text.Hex
import ApiStubs.Text.Utf8

/-!
# Percent encoding

A percent sign and two hexadecimal digits stand for a byte. The bytes of a run of ASCII characters
are decoded together; a percent sign without two digits stands for itself.
-/

namespace ApiStubs

namespace Text

/-- The byte at the start of a run, and the rest. -/
def percentByte? : List Char → Option (Nat × List Char)
  | '%' :: a :: b :: rest => do
    let x ← hexValue? a
    let y ← hexValue? b
    some (x * 16 + y, rest)
  | _ => none

/-- The bytes of a run of ASCII characters; each step uses up at least one of them. -/
def percentBytes : Nat → List Char → List Nat
  | 0, _ | _, [] => []
  | fuel + 1, c :: cs =>
    match percentByte? (c :: cs) with
    | some (b, rest) => b :: percentBytes fuel rest
    | none => c.toNat :: percentBytes fuel cs

def isAscii (c : Char) : Bool :=
  c.toNat < 0x80

/-- A run of ASCII characters, decoded. -/
def percentRun (cs : List Char) : List Char :=
  decodeReplacing (percentBytes cs.length cs)

/-- Decodes a text of which `run` is the ASCII run just read, last character first. -/
def percentDecodeFrom (run : List Char) : List Char → List Char
  | [] => percentRun run.reverse
  | c :: cs =>
    if isAscii c then percentDecodeFrom (c :: run) cs
    else percentRun run.reverse ++ c :: percentDecodeFrom [] cs

/-- A text with its percent escapes decoded. -/
def percentDecode (cs : List Char) : List Char :=
  percentDecodeFrom [] cs

end Text

end ApiStubs
