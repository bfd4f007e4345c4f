import SqlWire.Bytes

/-!
# Length-coded integers and strings

A length-coded integer takes one byte below 251. Otherwise its first byte is a marker: `FB` for SQL
NULL, `FC`, `FD` and `FE` for two, three and eight following little-endian digits. `FF` begins no
integer. A length-coded string is such an integer followed by that many bytes, or the NULL marker.

`LengthCoded.encode` always takes the narrowest form; `LengthCoded.decode?` takes every width, so a
value written wider than necessary is read all the same.
-/

set_option autoImplicit false

namespace SqlWire

/-- What a length-coded integer can say. -/
inductive LengthCoded where
  /-- The NULL marker. -/
  | null
  /-- A number. -/
  | value (n : UInt64)
deriving DecidableEq, Repr

namespace LengthCoded

/-- First byte that stands for SQL NULL. -/
def nullMarker : UInt8 := 0xFB

/-- First byte before two digits. -/
def marker16 : UInt8 := 0xFC

/-- First byte before three digits. -/
def marker24 : UInt8 := 0xFD

/-- First byte before eight digits. -/
def marker64 : UInt8 := 0xFE

/-- Bytes that an integer takes in all, told from its first byte. -/
def width (first : UInt8) : Nat :=
  if first = marker16 then 3
  else if first = marker24 then 4
  else if first = marker64 then 9
  else 1

/-- The narrowest form of a number. -/
def encode (n : UInt64) : Bytes :=
  if n < 251 then [n.toUInt8]
  else if n < 0x10000 then marker16 :: Bytes.ofNat 2 n.toNat
  else if n < 0x1000000 then marker24 :: Bytes.ofNat 3 n.toNat
  else marker64 :: Bytes.ofNat 8 n.toNat

/-- The integer at the front of a byte string and the number of bytes it takes. -/
def decode? : Bytes → Option (LengthCoded × Nat)
  | [] => none
  | first :: rest =>
    if first < nullMarker then some (value first.toUInt64, 1)
    else if first = nullMarker then some (null, 1)
    else if first = 0xFF then none
    else
      match Bytes.splitExactly (width first - 1) rest with
      | some (digits, _) => some (value (UInt64.ofNat (Bytes.toNat digits)), width first)
      | none => none

/-- The integer that stands at an offset into a byte string. -/
def decodeAt? (bs : Bytes) (offset : Nat) : Option (LengthCoded × Nat) :=
  decode? (bs.drop offset)

/-- The length-coded form of a byte string. -/
def encodeBytes (bs : Bytes) : Bytes :=
  encode (UInt64.ofNat bs.length) ++ bs

/-- The length-coded form of a string or of SQL NULL. -/
def encodeCell : Option Bytes → Bytes
  | none => [nullMarker]
  | some bs => encodeBytes bs

/-- The string at the front, `none` inside for SQL NULL, and the number of bytes it takes with its
length. -/
def decodeCell? (bs : Bytes) : Option (Option Bytes × Nat) :=
  match decode? bs with
  | none => none
  | some (null, used) => some (none, used)
  | some (value n, used) =>
    match Bytes.splitExactly n.toNat (bs.drop used) with
    | some (content, _) => some (some content, used + n.toNat)
    | none => none

/-- The string that stands at an offset, and the offset after it. -/
def decodeCellAt? (bs : Bytes) (offset : Nat) : Option (Option Bytes × Nat) :=
  (decodeCell? (bs.drop offset)).map fun (cell, used) => (cell, offset + used)

/-- An integer reads as it was written, whatever follows it. -/
theorem decode?_encode_append (n : UInt64) (rest : Bytes) :
    decode? (encode n ++ rest) = some (value n, (encode n).length) := by
  unfold encode
  split
  · next h =>
    have hn : n.toNat < 251 := by simpa [UInt64.lt_iff_toNat_lt] using h
    have hbyte : n.toUInt8.toNat = n.toNat := by rw [UInt64.toNat_toUInt8]; omega
    have hback : n.toUInt8.toUInt64 = n := by
      apply UInt64.toNat_inj.mp
      rw [UInt8.toNat_toUInt64, hbyte]
    have hlt : n.toUInt8 < nullMarker := by
      rw [UInt8.lt_iff_toNat_lt, hbyte]
      exact hn
    simp [decode?, hlt, hback]
  split
  · next h =>
    have hn : n.toNat < Bytes.bound 2 := by simpa [UInt64.lt_iff_toNat_lt, Bytes.bound] using h
    simp [decode?, nullMarker, width, marker16, Bytes.splitExactly_append,
      Bytes.toNat_ofNat_of_lt hn]
  split
  · next h =>
    have hn : n.toNat < Bytes.bound 3 := by simpa [UInt64.lt_iff_toNat_lt, Bytes.bound] using h
    simp [decode?, nullMarker, width, marker16, marker24, Bytes.splitExactly_append,
      Bytes.toNat_ofNat_of_lt hn]
  · have hn : n.toNat < Bytes.bound 8 := n.toNat_lt
    simp [decode?, nullMarker, width, marker16, marker24, marker64, Bytes.splitExactly_append,
      Bytes.toNat_ofNat_of_lt hn]

/-- A cell reads as it was written, whatever follows it, if its length can be written at all. -/
theorem decodeCell?_encodeCell_append {cell : Option Bytes} (rest : Bytes)
    (h : ∀ bs ∈ cell, bs.length < UInt64.size) :
    decodeCell? (encodeCell cell ++ rest) = some (cell, (encodeCell cell).length) := by
  cases cell with
  | none => rfl
  | some bs =>
    have hlen : (UInt64.ofNat bs.length).toNat = bs.length := by
      rw [UInt64.toNat_ofNat']
      exact Nat.mod_eq_of_lt (h bs rfl)
    simp [encodeCell, encodeBytes, decodeCell?, decode?_encode_append, List.append_assoc, hlen,
      Bytes.splitExactly_append]

end LengthCoded

end SqlWire
