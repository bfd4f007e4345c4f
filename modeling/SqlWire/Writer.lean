import SqlWire.LengthCoded
import SqlWire.Packet
import SqlWire.Utf8

/-!
# Writing a payload

A payload is written piece by piece. `Piece` lists what can be written and `Piece.encode` says which
bytes each piece adds; a `Writer` holds the bytes written so far.
-/

set_option autoImplicit false

namespace SqlWire

/-- What can be added to a payload. -/
inductive Piece where
  | byte (b : UInt8)
  /-- Two digits, least significant first. -/
  | word16 (n : UInt16)
  /-- Four digits, least significant first. -/
  | word32 (n : UInt32)
  /-- A length-coded integer in its narrowest form. -/
  | coded (n : UInt64)
  /-- A byte string behind its length. -/
  | codedBytes (bs : Bytes)
  /-- A text and a zero byte after it. -/
  | terminatedText (text : String)
  | bytes (bs : Bytes)
  /-- Padding. -/
  | zeros (count : Nat)
deriving DecidableEq, Repr

/-- The bytes that a piece adds. -/
def Piece.encode : Piece → Bytes
  | byte b => [b]
  | word16 n => Bytes.ofNat 2 n.toNat
  | word32 n => Bytes.ofNat 4 n.toNat
  | coded n => LengthCoded.encode n
  | codedBytes bs => LengthCoded.encodeBytes bs
  | terminatedText text => Utf8.encode text ++ [0]
  | bytes bs => bs
  | zeros count => List.replicate count 0

/-- A payload under construction. -/
structure Writer where
  /-- The bytes written so far. -/
  written : Bytes
deriving DecidableEq, Repr

namespace Writer

/-- Nothing written yet. -/
def empty : Writer :=
  ⟨[]⟩

/-- Bytes written so far, counted. -/
def size (w : Writer) : Nat :=
  w.written.length

/-- Nothing has been written. -/
def isEmpty (w : Writer) : Bool :=
  w.written.isEmpty

/-- One more piece at the end. -/
def push (w : Writer) (p : Piece) : Writer :=
  ⟨w.written ++ p.encode⟩

/-- The bytes written so far as one packet, for a payload known to fit. -/
def packet (w : Writer) (sequence : UInt8) : Bytes :=
  Packet.frame ⟨sequence, w.written⟩

end Writer

end SqlWire
