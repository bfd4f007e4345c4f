/-!
# Byte strings

Whatever crosses the wire is a list of bytes. This module holds the two readings of
such a list that every layer above shares:

* `Bytes.ofNat` and `Bytes.toNat`, a natural number as a fixed count of base-256 digits, least
  significant first;
* `Bytes.hexDump`, the spaced two-digit listing that the journal of packets shows.

`Bytes.splitExactly` and `Bytes.slice` cut a piece out of a byte string, the former
only where all of it is there.

The small laws stand beside the definitions: `toNat_ofNat`, `ofNat_toNat` and the
lengths.
-/

set_option autoImplicit false

namespace SqlWire

/-- A string of bytes, first byte first. -/
abbrev Bytes := List UInt8

namespace Bytes

/-- The `width` low base-256 digits of a number, least significant first; what lies
above them is dropped. -/
def ofNat : (width : Nat) → (n : Nat) → Bytes
  | 0, _ => []
  | width + 1, n => UInt8.ofNat n :: ofNat width (n / 256)

/-- The number whose base-256 digits are the given bytes, least significant first. -/
def toNat : Bytes → Nat
  | [] => 0
  | b :: rest => b.toNat + 256 * toNat rest

/-- How many numbers there are of so many digits. It is a recursion like `toNat`, so
that the two go together in proofs. -/
def bound : (width : Nat) → Nat
  | 0 => 1
  | width + 1 => 256 * bound width

/-- A number is written in as many bytes as it is told to be, zeros included. -/
@[simp] theorem length_ofNat (width n : Nat) : (ofNat width n).length = width := by
  induction width generalizing n with
  | zero => rfl
  | succ width ih => simp [ofNat, ih]

/-- Reading the digits back gives the number modulo the range of the digits. -/
theorem toNat_ofNat (width n : Nat) : toNat (ofNat width n) = n % bound width := by
  induction width generalizing n with
  | zero => simp [ofNat, toNat, bound, Nat.mod_one]
  | succ width ih =>
    rw [ofNat, toNat, ih, bound, Nat.mod_mul]
    simp

/-- A number within the range of its digits is read back as itself. -/
theorem toNat_ofNat_of_lt {width n : Nat} (h : n < bound width) : toNat (ofNat width n) = n := by
  rw [toNat_ofNat, Nat.mod_eq_of_lt h]

/-- So many digits stand for a number below their range, whatever they are. -/
theorem toNat_lt (bs : Bytes) : toNat bs < bound bs.length := by
  induction bs with
  | nil => simp [toNat, bound]
  | cons b rest ih =>
    have := b.toNat_lt
    rw [toNat, List.length_cons, bound]
    omega

/-- Digits are determined by the number they stand for, if it is known how many they
are. -/
theorem ofNat_toNat (bs : Bytes) : ofNat bs.length (toNat bs) = bs := by
  induction bs with
  | nil => rfl
  | cons b rest ih =>
    have hb := b.toNat_lt
    have hlow : UInt8.ofNat (b.toNat + 256 * toNat rest) = b := by
      apply UInt8.toNat_inj.mp
      rw [UInt8.toNat_ofNat']
      omega
    have hhigh : (b.toNat + 256 * toNat rest) / 256 = toNat rest := by omega
    rw [List.length_cons, toNat, ofNat, hlow, hhigh, ih]

/-- One base-16 digit, in lower case. -/
def hexDigit (n : Nat) : Char :=
  Char.ofNat (if n < 10 then 0x30 + n else 0x57 + n)

/-- The two base-16 digits of a byte, high one first. -/
def hexPair (b : UInt8) : List Char :=
  [hexDigit (b.toNat / 16), hexDigit (b.toNat % 16)]

/-- The bytes as two-digit groups with a space between neighbours, and nothing for
no bytes. -/
def hexDump (bs : Bytes) : String :=
  String.ofList ([' '].intercalate (bs.map hexPair))

/-- The first `n` bytes and what follows them, or nothing where fewer than `n` are
left. -/
def splitExactly (n : Nat) (bs : Bytes) : Option (Bytes × Bytes) :=
  if (bs.take n).length = n then some (bs.take n, bs.drop n) else none

/-- The bytes are cut in two, and the first part is as long as was asked for. -/
theorem splitExactly_eq_some_iff {n : Nat} {bs taken rest : Bytes} :
    splitExactly n bs = some (taken, rest) ↔ bs = taken ++ rest ∧ taken.length = n := by
  unfold splitExactly
  constructor
  · intro h
    split at h
    · next hn =>
      obtain ⟨rfl, rfl⟩ := Prod.mk.inj (Option.some.inj h)
      exact ⟨(List.take_append_drop n bs).symm, hn⟩
    · cases h
  · rintro ⟨rfl, rfl⟩
    simp

/-- It fails just where there are not enough bytes. -/
theorem splitExactly_eq_none_iff {n : Nat} {bs : Bytes} :
    splitExactly n bs = none ↔ bs.length < n := by
  unfold splitExactly
  split <;> next h => simp only [List.length_take] at h; simp; omega

/-- Bytes of the length that is asked for are cut off whatever follows them. -/
theorem splitExactly_append {n : Nat} {taken : Bytes} (rest : Bytes) (h : taken.length = n) :
    splitExactly n (taken ++ rest) = some (taken, rest) :=
  splitExactly_eq_some_iff.mpr ⟨rfl, h⟩

/-- The bytes from one place on up to another one. -/
def slice (bs : Bytes) (start stop : Nat) : Bytes :=
  (bs.drop start).take (stop - start)

variable {bs : Bytes} {start stop : Nat}

/-- A slice within the bytes is as long as the distance of its ends. -/
theorem length_slice (h : stop ≤ bs.length) : (bs.slice start stop).length = stop - start := by
  rw [slice, List.length_take, List.length_drop]
  omega

/-- A slice and what is behind it are all that is behind its beginning. -/
theorem slice_append_drop (h : start ≤ stop) :
    bs.slice start stop ++ bs.drop stop = bs.drop start := by
  have hsplit := List.take_append_drop (stop - start) (bs.drop start)
  rwa [List.drop_drop, Nat.add_sub_cancel' h] at hsplit

/-- Byte strings that agree in a range have the same slice there. -/
theorem slice_congr {cs : Bytes} (h : ∀ j, start ≤ j → j < stop → cs[j]? = bs[j]?) :
    cs.slice start stop = bs.slice start stop := by
  apply List.ext_getElem?
  intro k
  rw [slice, slice, List.getElem?_take, List.getElem?_take, List.getElem?_drop, List.getElem?_drop]
  split
  · exact h _ (by omega) (by omega)
  · rfl

end Bytes

end SqlWire
