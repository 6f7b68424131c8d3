import MismatchLog.Text

/-!
UTF-8. Encoding is by character. Decoding is a machine that takes one byte at a time and never
fails: bytes that begin a character and cannot be completed become one replacement character, and
so does every byte that begins none. The strict reading accepts what the machine reads without a
loss.
-/

namespace MismatchLog.Utf8

def encode (t : Text) : Bytes := t.flatMap String.utf8EncodeChar

/-- Stands for bytes that are no character. -/
def replacement : Char := '\uFFFD'

/-- A character of which the first bytes were read: its bits so far, the bytes still owed, and the
range in which the next of them has to lie. -/
structure Begun where
  bits : Nat
  owed : Nat
  low : UInt8
  high : UInt8
  deriving DecidableEq, Repr

/-- The first byte of a character. The narrow ranges leave out overlong forms, surrogates and
numbers beyond the last character. -/
def start (b : UInt8) : Text × Option Begun :=
  if b < 0x80 then ([Char.ofNat b.toNat], none)
  else if 0xC2 ≤ b ∧ b ≤ 0xDF then ([], some ⟨b.toNat - 0xC0, 1, 0x80, 0xBF⟩)
  else if b = 0xE0 then ([], some ⟨0, 2, 0xA0, 0xBF⟩)
  else if b = 0xED then ([], some ⟨0xD, 2, 0x80, 0x9F⟩)
  else if 0xE1 ≤ b ∧ b ≤ 0xEF then ([], some ⟨b.toNat - 0xE0, 2, 0x80, 0xBF⟩)
  else if b = 0xF0 then ([], some ⟨0, 3, 0x90, 0xBF⟩)
  else if 0xF1 ≤ b ∧ b ≤ 0xF3 then ([], some ⟨b.toNat - 0xF0, 3, 0x80, 0xBF⟩)
  else if b = 0xF4 then ([], some ⟨4, 3, 0x80, 0x8F⟩)
  else ([replacement], none)

/-- One byte: the characters it settles, and the character it leaves begun. A byte that cannot go
on with a begun character replaces it and is read as a first byte. -/
def step : Option Begun → UInt8 → Text × Option Begun
  | none, b => start b
  | some p, b =>
    if p.low ≤ b ∧ b ≤ p.high then
      let bits := p.bits * 64 + (b.toNat - 0x80)
      if p.owed ≤ 1 then ([Char.ofNat bits], none)
      else ([], some ⟨bits, p.owed - 1, 0x80, 0xBF⟩)
    else (replacement :: (start b).1, (start b).2)

/-- Decodes what follows a character that may be begun. -/
def decodeFrom : Option Begun → Bytes → Text
  | none, [] => []
  | some _, [] => [replacement]
  | s, b :: rest =>
    let out := step s b
    out.1 ++ decodeFrom out.2 rest

def decode (bytes : Bytes) : Text := decodeFrom none bytes

/-- The text whose encoding these bytes are. -/
def decode? (bytes : Bytes) : Option Text :=
  if encode (decode bytes) = bytes then some (decode bytes) else none

end MismatchLog.Utf8
