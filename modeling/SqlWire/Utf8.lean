import SqlWire.Bytes

/-!
# Text on the wire

Text travels as UTF-8. Writing it is exact; reading it never fails, because a server may send any
bytes where text is expected: each maximal ill-formed stretch reads as one replacement character.

The reading is a machine fed one byte at a time. Between characters it holds nothing; inside one it
knows the bits so far, how many continuation bytes are owed and the range the next one must lie in.
The narrowed ranges after `E0`, `ED`, `F0` and `F4` are what rules out overlong forms, surrogates
and values beyond the last scalar, at the earliest byte that shows it.
-/

set_option autoImplicit false

namespace SqlWire.Utf8

/-- The UTF-8 bytes of a text. -/
def encode (text : String) : Bytes :=
  text.toList.flatMap String.utf8EncodeChar

/-- What stands for bytes that are no character. -/
def replacement : Char := '\uFFFD'

/-- A character under way. -/
structure Pending where
  /-- The scalar value's leading bits, from the bytes seen so far. -/
  bits : Nat
  /-- Continuation bytes still to come, at least one. -/
  owed : Nat
  /-- Least value that the next byte may have. -/
  low : UInt8
  /-- Greatest value that the next byte may have. -/
  high : UInt8
deriving DecidableEq, Repr

/-- The text read so far, last character first, and the character under way if there is one. -/
structure Decoder where
  done : List Char
  pending : Option Pending
deriving DecidableEq, Repr

/-- One byte, with no character under way. -/
def Decoder.start (done : List Char) (b : UInt8) : Decoder :=
  if b < 0x80 then ⟨Char.ofNat b.toNat :: done, none⟩
  else if b < 0xC2 then ⟨replacement :: done, none⟩
  else if b < 0xE0 then ⟨done, some ⟨b.toNat - 0xC0, 1, 0x80, 0xBF⟩⟩
  else if b = 0xE0 then ⟨done, some ⟨0, 2, 0xA0, 0xBF⟩⟩
  else if b = 0xED then ⟨done, some ⟨0xD, 2, 0x80, 0x9F⟩⟩
  else if b < 0xF0 then ⟨done, some ⟨b.toNat - 0xE0, 2, 0x80, 0xBF⟩⟩
  else if b = 0xF0 then ⟨done, some ⟨0, 3, 0x90, 0xBF⟩⟩
  else if b < 0xF4 then ⟨done, some ⟨b.toNat - 0xF0, 3, 0x80, 0xBF⟩⟩
  else if b = 0xF4 then ⟨done, some ⟨4, 3, 0x80, 0x8F⟩⟩
  else ⟨replacement :: done, none⟩

/-- One byte. A byte that cannot continue the character under way ends it as ill-formed and is then
looked at afresh. -/
def Decoder.step (d : Decoder) (b : UInt8) : Decoder :=
  match d.pending with
  | none => .start d.done b
  | some p =>
    if p.low ≤ b ∧ b ≤ p.high then
      -- A continuation byte carries six bits.
      let bits := p.bits * 64 + (b.toNat - 0x80)
      if p.owed ≤ 1 then ⟨Char.ofNat bits :: d.done, none⟩
      else ⟨d.done, some ⟨bits, p.owed - 1, 0x80, 0xBF⟩⟩
    else .start (replacement :: d.done) b

/-- The characters read, first one first; a character cut off by the end is ill-formed. -/
def Decoder.finish (d : Decoder) : List Char :=
  match d.pending with
  | none => d.done.reverse
  | some _ => (replacement :: d.done).reverse

/-- The text of any byte string, with one replacement character for each maximal stretch that begins
a character and does not complete it, and for each byte that can begin none. -/
def decode (bs : Bytes) : String :=
  String.ofList (bs.foldl Decoder.step ⟨[], none⟩).finish

end SqlWire.Utf8
