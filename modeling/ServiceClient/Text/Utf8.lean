/-!
# Reading UTF-8

`Utf8.decode` turns bytes into characters and says where it fails. The reading is an automaton: it
is either between characters or inside one, and inside one it knows how many bytes are still to
come and the bounds on the next. Only the first byte after a lead byte can have bounds narrower
than those of a continuation byte; they exclude over-long forms, surrogates and numbers past
U+10FFFF.

A failure covers the bytes read so far of the character that broke off, whether the next byte does
not continue it or the data end, and just the offending byte when no character can start with it.
-/

namespace ServiceClient.Text.Utf8

/-- Why a stretch of bytes is no character. -/
inductive Defect
  /-- The byte starts no character. -/
  | invalidStart
  /-- The byte after the stretch does not continue it. -/
  | invalidContinuation
  /-- The data end within a character. -/
  | unexpectedEnd
  deriving DecidableEq

/-- The bytes `first`, ..., `last` are no character. -/
structure Error where
  /-- What is wrong. -/
  defect : Defect
  /-- The offset of the first byte concerned. -/
  first : Nat
  /-- The offset of the last byte concerned. -/
  last : Nat
  /-- The first byte concerned. -/
  lead : UInt8
  deriving DecidableEq

/-- A character of which some bytes have been read. -/
structure Pending where
  /-- The offset of its lead byte. -/
  start : Nat
  /-- Its lead byte. -/
  lead : UInt8
  /-- How many bytes are still to come, less one. -/
  more : Nat
  /-- The least byte that may come next. -/
  low : UInt8
  /-- The greatest byte that may come next. -/
  high : UInt8
  /-- The bits read so far. -/
  bits : Nat

/-- What a lead byte announces: the number of bytes to come less one, the bounds on the next, and
the bits it carries itself. -/
def ofLead? (start : Nat) (b : UInt8) : Option Pending :=
  if b < 0xC2 then none
  else if b < 0xE0 then some ⟨start, b, 0, 0x80, 0xBF, b.toNat - 0xC0⟩
  else if b < 0xF0 then
    some ⟨start, b, 1, if b = 0xE0 then 0xA0 else 0x80, if b = 0xED then 0x9F else 0xBF,
      b.toNat - 0xE0⟩
  else if b < 0xF5 then
    some ⟨start, b, 2, if b = 0xF0 then 0x90 else 0x80, if b = 0xF4 then 0x8F else 0xBF,
      b.toNat - 0xF0⟩
  else none

/-- Reads bytes from a given offset on, between characters or inside one. -/
def decodeFrom : Nat → Option Pending → List UInt8 → Except Error (List Char)
  | _, none, [] => .ok []
  | offset, some p, [] => .error ⟨.unexpectedEnd, p.start, offset - 1, p.lead⟩
  | offset, none, b :: rest =>
    if b < 0x80 then do
      let cs ← decodeFrom (offset + 1) none rest
      return Char.ofNat b.toNat :: cs
    else
      match ofLead? offset b with
      | none => .error ⟨.invalidStart, offset, offset, b⟩
      | some p => decodeFrom (offset + 1) (some p) rest
  | offset, some p, b :: rest =>
    if p.low ≤ b ∧ b ≤ p.high then
      let bits := p.bits * 64 + (b.toNat - 0x80)
      match p.more with
      | 0 => do
        let cs ← decodeFrom (offset + 1) none rest
        return Char.ofNat bits :: cs
      | more + 1 =>
        decodeFrom (offset + 1) (some ⟨p.start, p.lead, more, 0x80, 0xBF, bits⟩) rest
    else .error ⟨.invalidContinuation, p.start, offset - 1, p.lead⟩

/-- The characters that some bytes encode. -/
def decode (bytes : List UInt8) : Except Error (List Char) := decodeFrom 0 none bytes

/-- The bytes that encode some characters. -/
def encode (cs : List Char) : List UInt8 := cs.flatMap String.utf8EncodeChar

@[simp] theorem encode_nil : encode [] = [] := rfl

theorem encode_append (cs ds : List Char) : encode (cs ++ ds) = encode cs ++ encode ds := by
  simp [encode]

end ServiceClient.Text.Utf8
