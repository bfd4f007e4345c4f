import SqlWire.Greeting
import SqlWire.Proofs.Reads

/-!
# Greetings are read as they were written

Whatever a server puts into the layout of a greeting, a client reads the fields that
it keeps as they were written (`GreetingPacket.parse_encode`). The seed and the
capabilities are written in two parts each, with other fields in between, and are
put together again.
-/

set_option autoImplicit false

namespace SqlWire

open Reader

/-- The halves of a number make up the number. Written apart from each other, each
of them is a number of two bytes, and the upper one is moved up again. -/
theorem join_halves (n : UInt32) :
    (UInt16.ofNat n.toNat).toUInt32 ||| (UInt16.ofNat (n.toNat / 0x10000)).toUInt32 <<< 16 = n := by
  have hbound := n.toNat_lt
  have hlower : n.toNat % 2 ^ 16 < 2 ^ 16 := Nat.mod_lt _ (by decide)
  have hupper : n.toNat / 0x10000 % 2 ^ 16 = n.toNat / 0x10000 := by omega
  have hshift : (n.toNat / 0x10000) <<< 16 % 2 ^ 32 = (n.toNat / 0x10000) <<< 16 := by
    rw [Nat.shiftLeft_eq]
    omega
  apply UInt32.toNat_inj.mp
  simp only [UInt32.toNat_or, UInt32.toNat_shiftLeft, UInt16.toNat_toUInt32, UInt16.toNat_ofNat',
    UInt32.reduceToNat, Nat.reduceMod, hupper, hshift]
  -- The two halves have no bit in common, so putting them together is adding them.
  rw [Nat.or_comm, ← Nat.shiftLeft_add_eq_or_of_lt hlower, Nat.shiftLeft_eq]
  omega

/-- A word is written by its two lowest digits, whatever stands above them. The
lower half of the capabilities is written as all of them, cut to two bytes. -/
theorem Reader.reads_word16_ofNat (n : Nat) : Reads word16 (UInt16.ofNat n) (Bytes.ofNat 2 n) := by
  have hbound : Bytes.bound 2 = UInt16.size := rfl
  have h := (reads_bytes (Bytes.length_ofNat 2 n)).map fun bs => UInt16.ofNat (Bytes.toNat bs)
  rwa [Bytes.toNat_ofNat, hbound, UInt16.ofNat_mod_size] at h

namespace GreetingPacket

variable (p : GreetingPacket)

/-- The fields behind the protocol version are read as they were written. The layout
is taken apart field by field, each step with the defect that it would report. -/
theorem reads_fields :
    Reads (Greeting.readBody Greeting.supportedVersion) p.greeting p.fields := by
  have hlength := p.length_seed
  have hfirst : (p.seed.take Greeting.seedFirstLength).length = Greeting.seedFirstLength := by
    rw [List.length_take, hlength]
    rfl
  have hsecond : (p.seed.drop Greeting.seedFirstLength).length = Greeting.seedSecondLength := by
    rw [List.length_drop, hlength]
    rfl
  have hfiller : [p.filler].length = 1 := rfl
  have hreserved : (p.seedLength :: p.reserved).length = Greeting.reservedLength := by
    rw [List.length_cons, p.length_reserved]
    rfl
  simp only [fields, List.append_assoc]
  rw [← List.append_assoc p.version]
  refine ((reads_terminatedText p.version_terminated).adaptExcept _).bind ?_
  refine ((reads_word32 p.threadId).adaptExcept _).bind ?_
  refine ((reads_bytes hfirst).adaptExcept _).bind ?_
  refine ((reads_skip hfiller).adaptExcept _).bind ?_
  refine ((reads_word16_ofNat _).adaptExcept _).bind ?_
  refine ((reads_byte p.charset).adaptExcept _).bind ?_
  refine ((reads_word16 p.statusFlags).adaptExcept _).bind ?_
  refine ((reads_word16_ofNat _).adaptExcept _).bind ?_
  refine ((reads_skip hreserved).adaptExcept _).bind ?_
  -- The second part of the seed is the last field, with nothing of the layout behind
  -- it.
  rw [← List.append_nil (p.seed.drop Greeting.seedFirstLength)]
  refine ((reads_bytes hsecond).adaptExcept _).bind ?_
  rw [List.take_append_drop, join_halves]
  exact .pure p.greeting

/-- A greeting is read as the server wrote it, and what stands behind its seed does
not matter. -/
theorem parse_encode : Greeting.parse p.encode = .ok p.greeting := by
  have hbody := p.reads_fields 1 p.trailing
  have hversion : Greeting.supportedVersion ≠ ErrReply.marker := by decide
  rw [encode, Greeting.parse, if_neg hversion, if_pos rfl, hbody]

end GreetingPacket

end SqlWire
