import SqlWire.Bytes
import SqlWire.Json.Parser

/-!
# Reading a hex dump

A journal shows the payload of a packet as a text, `Bytes.hexDump`.
`Bytes.ofHexDump?` is the reader of such a text: it splits it at the spaces and
takes each piece for two base-16 digits. No digit is a space, so the pieces are the
pairs of digits that were written, and what was dumped comes back
(`ofHexDump?_hexDump`). Every byte takes three characters, less the space behind the
last one (`length_hexDump`).
-/

set_option autoImplicit false

namespace SqlWire.Bytes

/-- The byte that two base-16 digits spell, high one first. Anything but two
characters is no byte. -/
def ofHexPair? : List Char → Option UInt8
  | [high, low] => do
    return UInt8.ofNat ((← Json.hexValue? high) * 16 + (← Json.hexValue? low))
  | _ => none

/-- The bytes of a dump, one for each piece between spaces; where there are no
characters there are no pieces. The reader is written for what a dump looks like,
and not from the function that writes one. -/
def ofHexDump? (dump : String) : Option Bytes :=
  if dump = "" then some [] else (dump.toList.splitOn ' ').mapM ofHexPair?

/-- A digit is read as what it was written for. There are sixteen of them, and they
are gone through one by one. -/
theorem hexValue?_hexDigit {n : Nat} (h : n < 16) : Json.hexValue? (hexDigit n) = some n := by
  have hall : ∀ n < 16, Json.hexValue? (hexDigit n) = some n := by decide
  exact hall n h

/-- No digit is the character that separates bytes, which is checked for the sixteen
of them. -/
theorem hexDigit_ne_space {n : Nat} (h : n < 16) : hexDigit n ≠ ' ' := by
  have hall : ∀ n < 16, hexDigit n ≠ ' ' := by decide
  exact hall n h

/-- A byte is its two digits: the one for its upper half and the one for its lower. -/
theorem ofHexPair?_hexPair (b : UInt8) : ofHexPair? (hexPair b) = some b := by
  have hb := b.toNat_lt
  have hhigh : Json.hexValue? (hexDigit (b.toNat / 16)) = some (b.toNat / 16) :=
    hexValue?_hexDigit (by omega)
  have hlow : Json.hexValue? (hexDigit (b.toNat % 16)) = some (b.toNat % 16) :=
    hexValue?_hexDigit (by omega)
  have hdigits : b.toNat / 16 * 16 + b.toNat % 16 = b.toNat := by omega
  simp only [ofHexPair?, hexPair, hhigh, hlow]
  show some (UInt8.ofNat (b.toNat / 16 * 16 + b.toNat % 16)) = some b
  rw [hdigits, UInt8.ofNat_toNat]

/-- A dump is split at its spaces alone, never within a byte. -/
theorem space_not_mem_hexPair (b : UInt8) : ' ' ∉ hexPair b := by
  have hb := b.toNat_lt
  have hhigh : hexDigit (b.toNat / 16) ≠ ' ' := hexDigit_ne_space (by omega)
  have hlow : hexDigit (b.toNat % 16) ≠ ' ' := hexDigit_ne_space (by omega)
  simp [hexPair, hhigh.symm, hlow.symm]

/-- Pieces that are the digits of bytes are read as these bytes. The induction is on
the bytes. -/
theorem mapM_ofHexPair?_map_hexPair (bs : Bytes) : (bs.map hexPair).mapM ofHexPair? = some bs := by
  induction bs with
  | nil => rfl
  | cons b bs ih => simp [ofHexPair?_hexPair, ih]

/-- Two digits for each byte, and a space in front of each but the first. For no
bytes the subtraction stops at zero, and the dump is empty. -/
theorem length_hexDump (bs : Bytes) : bs.hexDump.length = 3 * bs.length - 1 := by
  rw [hexDump, String.length_ofList]
  induction bs with
  | nil => rfl
  | cons b bs ih =>
    cases bs with
    | nil => simp [hexPair]
    | cons b' bs =>
      rw [List.map_cons, List.map_cons, List.intercalate_cons_cons, ← List.map_cons]
      simp only [List.length_append, ih]
      simp [hexPair]
      omega

/-- What was dumped is read back, no bytes as well as some. The empty dump needs its
own case, since splitting it gives one empty piece. -/
theorem ofHexDump?_hexDump (bs : Bytes) : ofHexDump? bs.hexDump = some bs := by
  cases bs with
  | nil => rfl
  | cons b bs =>
    -- Only the dump of no bytes is empty, so this one is split at its spaces.
    have hdump : hexDump (b :: bs) ≠ "" := by
      intro hempty
      have hlength := length_hexDump (b :: bs)
      rw [hempty, String.length_empty, List.length_cons] at hlength
      omega
    have hpieces : ([' '].intercalate ((b :: bs).map hexPair)).splitOn ' '
        = (b :: bs).map hexPair := by
      apply List.splitOn_intercalate
      · intro piece hpiece
        obtain ⟨digit, -, rfl⟩ := List.mem_map.mp hpiece
        exact space_not_mem_hexPair digit
      · exact List.cons_ne_nil _ _
    rw [ofHexDump?, if_neg hdump, hexDump, String.toList_ofList, hpieces,
      mapM_ofHexPair?_map_hexPair]

/-- No two byte strings are dumped alike. A dump says everything about the payload
that it shows. -/
theorem hexDump_injective : Function.Injective hexDump := by
  intro bs cs h
  have hread := ofHexDump?_hexDump bs
  rw [h, ofHexDump?_hexDump] at hread
  exact (Option.some.inj hread).symm

end SqlWire.Bytes
