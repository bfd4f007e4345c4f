import SqlWire.Packet
import SqlWire.Proofs.Reads
import SqlWire.Row

/-!
# Headers and kinds of packets

A header that was read from four bytes is written as these bytes. The kind of a
packet is told from its first byte, and what that byte can be follows from how the
payload is written. The header of a result set begins with a positive length-coded
integer and is data (`kind_encode_append`). A payload that begins with a
length-coded string, as a field or a row does, may look like a confirmation, but
never like an error or an end marker (`IsContent`): the marker that it could share
with the latter has eight digits behind it, and an end marker is shorter.
-/

set_option autoImplicit false

namespace SqlWire

/-- A header is what its four bytes say, and is written as these again. So no two
headers have the same bytes. -/
theorem Header.encode_ofBytes_of_length {head : Bytes} (h : head.length = Header.size) :
    (Header.ofBytes head).encode = head := by
  match head, h with
  | [b₀, b₁, b₂, b₃], _ => exact Header.encode_ofBytes b₀ b₁ b₂ b₃

/-- The bytes behind a header do not change what it says. -/
theorem Header.ofBytes_append {head : Bytes} (h : head.length = Header.size) (rest : Bytes) :
    Header.ofBytes (head ++ rest) = Header.ofBytes head := by
  have hthree : 3 < head.length := by
    rw [h]
    decide
  have htake : (head ++ rest).take 3 = head.take 3 :=
    List.take_append_of_le_length (Nat.le_of_lt hthree)
  have hget : (head ++ rest)[3]? = head[3]? := List.getElem?_append_left hthree
  rw [Header.ofBytes, Header.ofBytes, htake, List.getD_eq_getElem?_getD, hget,
    List.getD_eq_getElem?_getD]

/-- What the first byte of a length-coded integer tells: it is zero for the number
zero alone, it never marks an error, and if it is the one that also marks an end,
there are eight digits behind it. -/
theorem LengthCoded.encode_eq_cons (n : UInt64) :
    ∃ first rest, encode n = first :: rest ∧ (first = 0 ↔ n = 0) ∧ first ≠ 0xFF
      ∧ (first = 0xFE → rest.length = 8) := by
  unfold encode
  -- A single byte is the number itself, and below all markers; otherwise the marker is in front.
  split
  · next h =>
    have hn : n.toNat < 251 := by simpa [UInt64.lt_iff_toNat_lt] using h
    have hbyte : n.toUInt8.toNat = n.toNat := by
      rw [UInt64.toNat_toUInt8]
      omega
    refine ⟨n.toUInt8, [], rfl, ?_, ?_, ?_⟩
    · rw [← UInt8.toNat_inj, ← UInt64.toNat_inj, hbyte]
      rfl
    · rw [Ne, ← UInt8.toNat_inj, hbyte]
      exact Nat.ne_of_lt (Nat.lt_trans hn (by decide))
    · rw [← UInt8.toNat_inj, hbyte]
      intro hmarker
      rw [hmarker] at hn
      exact absurd hn (by decide)
  · next h =>
    have hn : n ≠ 0 := by
      rintro rfl
      exact h (by decide)
    -- None of the three markers is zero, so the first byte is as little zero as the number.
    split
    · refine ⟨marker16, _, rfl, iff_of_false (by decide) hn, by decide, ?_⟩
      intro hmarker
      exact absurd hmarker (by decide)
    split
    · refine ⟨marker24, _, rfl, iff_of_false (by decide) hn, by decide, ?_⟩
      intro hmarker
      exact absurd hmarker (by decide)
    · refine ⟨marker64, _, rfl, iff_of_false (by decide) hn, by decide, ?_⟩
      intro _
      exact Bytes.length_ofNat 8 _

namespace Packet

/-- A positive integer at the front makes a packet data, and zero makes it a
confirmation. A server that answers a query with a count of columns is therefore
never taken to have confirmed it. -/
theorem kind_encode_append (sequence : UInt8) (n : UInt64) (ahead : Bytes) :
    kind ⟨sequence, LengthCoded.encode n ++ ahead⟩ = if n = 0 then .ok else .data := by
  obtain ⟨first, rest, hencode, hzero, herror, heof⟩ := LengthCoded.encode_eq_cons n
  -- With the marker of an end marker in front, eight digits make the packet longer than one.
  have hlength : ¬ (first = 0xFE ∧ (first :: (rest ++ ahead)).length = PacketKind.eofLength) := by
    rintro ⟨hfirst, hlength⟩
    rw [List.length_cons, List.length_append, heof hfirst, PacketKind.eofLength] at hlength
    omega
  simp only [kind, hencode, List.cons_append, PacketKind.ofFirstByte, if_neg hlength, if_neg herror,
    hzero]

/-- The packet is neither an error nor an end marker. A row or a field may look like
a confirmation, which does no harm where neither of them is waited for. -/
def IsContent (p : Packet) : Prop :=
  p.kind = .ok ∨ p.kind = .data

/-- A string at the front makes a packet content. The length of the string may begin
with the byte that marks an end, but then the packet is longer than an end marker. -/
theorem isContent_encodeCell_append (sequence : UInt8) (cell : Option Bytes) (ahead : Bytes) :
    IsContent ⟨sequence, LengthCoded.encodeCell cell ++ ahead⟩ := by
  cases cell with
  | none => exact .inr rfl
  | some bs =>
    rw [IsContent, LengthCoded.encodeCell, LengthCoded.encodeBytes, List.append_assoc,
      kind_encode_append]
    split
    · exact .inl rfl
    · exact .inr rfl

/-- A field is content, also with an empty catalog and with something behind it. Its
first byte is then the length of an empty string. -/
theorem isContent_field (sequence : UInt8) (field : FieldPacket) (ahead : Bytes) :
    IsContent ⟨sequence, field.encode ++ ahead⟩ := by
  simp only [FieldPacket.encode, List.append_assoc]
  exact isContent_encodeCell_append _ _ _

/-- A row is content, also with an empty first cell and with SQL NULL in its place.
A row of no columns has no first byte and is not spoken of here. -/
theorem isContent_row (sequence : UInt8) {cells : List (Option Bytes)} (h : cells ≠ []) :
    IsContent ⟨sequence, Row.encode cells⟩ := by
  obtain ⟨cell, rest, rfl⟩ := List.exists_cons_of_ne_nil h
  exact isContent_encodeCell_append _ _ _

/-- Payloads as they are sent in one exchange, numbered from the given number on.
The numbers start again behind 255. -/
def stream (sequence : UInt8) (payloads : List Bytes) : Bytes :=
  (number sequence payloads).flatMap frame

/-- The first packet stands in front of the stream of the others, which begins with
the next number. -/
theorem stream_cons (sequence : UInt8) (payload : Bytes) (payloads : List Bytes) :
    stream sequence (payload :: payloads)
      = frame ⟨sequence, payload⟩ ++ stream (sequence + 1) payloads :=
  List.flatMap_cons

/-- Each packet takes a byte at least, so a stream holds no more packets than bytes.
It bounds the rounds of a loop over them. -/
theorem length_le_length_stream (sequence : UInt8) (payloads : List Bytes) :
    payloads.length ≤ (stream sequence payloads).length := by
  induction payloads generalizing sequence with
  | nil => exact Nat.zero_le _
  | cons payload payloads ih =>
    have hrest := ih (sequence + 1)
    rw [stream_cons, List.length_append, List.length_cons, frame, Header.encode]
    simp only [List.length_append, Bytes.length_ofNat]
    omega

/-- An end marker is known for one by its first byte and its length. -/
theorem kind_eof (sequence : UInt8) (reply : EofReply) : kind ⟨sequence, reply.encode⟩ = .eof := rfl

end Packet

end SqlWire
