import SqlWire.Bytes

/-!
# Packets

A packet is a header of four bytes and a payload: three little-endian digits of the payload's length
and a sequence number that counts the packets of one exchange modulo 256. A length of `maxPayload`
would announce a continuation in a further packet, which this library neither writes nor joins.

The first payload byte tells what a packet is (`Packet.kind`). `Packet.frame` writes a packet and
`Packet.unframe` cuts a recorded byte string into packets again.
-/

set_option autoImplicit false

namespace SqlWire

/-- The four bytes in front of a payload. -/
structure Header where
  /-- Announced length of the payload. -/
  length : Nat
  /-- Place in the exchange, modulo 256. -/
  sequence : UInt8
deriving DecidableEq, Repr

namespace Header

/-- Bytes that a header takes. -/
def size : Nat := 4

/-- The header as it is sent; three digits are all the room a length has. -/
def encode (h : Header) : Bytes :=
  Bytes.ofNat 3 h.length ++ [h.sequence]

/-- The header that stands in the given bytes: digits up to the third, then the sequence number.
A byte that is missing counts as zero. -/
def ofBytes (bs : Bytes) : Header :=
  ⟨Bytes.toNat (bs.take 3), bs.getD 3 0⟩

/-- A header reads as it was written, up to the three digits of its length. -/
theorem ofBytes_encode (h : Header) : ofBytes h.encode = ⟨h.length % 0x1000000, h.sequence⟩ := by
  simp [ofBytes, encode, Bytes.toNat_ofNat, Bytes.bound]

/-- Any four bytes are the header that they read as. -/
theorem encode_ofBytes (b₀ b₁ b₂ b₃ : UInt8) :
    (ofBytes [b₀, b₁, b₂, b₃]).encode = [b₀, b₁, b₂, b₃] := by
  have h : Bytes.ofNat 3 (Bytes.toNat [b₀, b₁, b₂]) = [b₀, b₁, b₂] :=
    Bytes.ofNat_toNat [b₀, b₁, b₂]
  simp [ofBytes, encode, h]

end Header

/-- Least payload length that a single packet cannot carry. -/
def maxPayload : Nat := 0xFFFFFF

/-- What the first byte makes of a reply. -/
inductive PacketKind where
  /-- The command completed. -/
  | ok
  /-- The server reports an error. -/
  | error
  /-- End of the fields or of the rows. -/
  | eof
  /-- Anything else: a result set header, a field, a row. -/
  | data
deriving DecidableEq, Repr

namespace PacketKind

/-- Payload length of an end marker; a longer payload with the same first byte is data. -/
def eofLength : Nat := 5

/-- The kind of a payload with the given first byte and length. -/
def ofFirstByte (first : UInt8) (length : Nat) : PacketKind :=
  if first = 0x00 then ok
  else if first = 0xFF then error
  else if first = 0xFE ∧ length = eofLength then eof
  else data

end PacketKind

/-- A packet taken off the wire. -/
structure Packet where
  sequence : UInt8
  payload : Bytes
deriving DecidableEq, Repr

namespace Packet

/-- First byte of the payload, if it has one. -/
def firstByte (p : Packet) : Option UInt8 :=
  p.payload.head?

/-- The kind of a packet. An empty payload is data. -/
def kind (p : Packet) : PacketKind :=
  match p.payload with
  | [] => .data
  | first :: _ => .ofFirstByte first p.payload.length

/-- The packet as it is sent. -/
def frame (p : Packet) : Bytes :=
  Header.encode ⟨p.payload.length, p.sequence⟩ ++ p.payload

/-- Numbers payloads one after another, from the given number and modulo 256. -/
def number : (sequence : UInt8) → List Bytes → List Packet
  | _, [] => []
  | sequence, payload :: rest => ⟨sequence, payload⟩ :: number (sequence + 1) rest

/-- Cuts a byte string into packets by the lengths that their headers announce. The last payload
ends with the bytes; fewer than four bytes at the end are no packet. -/
def unframe : Bytes → List Packet
  | low :: mid :: high :: sequence :: rest =>
    let length := Bytes.toNat [low, mid, high]
    -- `take` and `drop` stop where the bytes end.
    ⟨sequence, rest.take length⟩ :: unframe (rest.drop length)
  | _ => []
termination_by bs => bs.length
decreasing_by simp; omega

/-- A packet at the front is cut off whole. -/
theorem unframe_frame_append {p : Packet} (h : p.payload.length < 0x1000000) (rest : Bytes) :
    unframe (p.frame ++ rest) = p :: unframe rest := by
  obtain ⟨sequence, payload⟩ := p
  have hlen := Bytes.toNat_ofNat_of_lt (show payload.length < Bytes.bound 3 from h)
  simp only [Bytes.ofNat] at hlen
  simp only [frame, Header.encode, Bytes.ofNat, List.cons_append, List.nil_append, unframe]
  rw [hlen]
  simp

end Packet

end SqlWire
