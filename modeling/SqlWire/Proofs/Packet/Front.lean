import SqlWire.Proofs.Packet

/-!
# Packets at the front of a byte string

A header tells where its packet ends, so a packet at the front of a byte string is
the only one there (`frame_append_inj`). What is left over of a reading is either
the beginning of a packet that is not all there (`Unfinished`) or a header with
another number than the one that is due. In both cases the bytes do not begin with a
whole packet of that number (`Lacks`).

Payloads that were read off a byte string one after another, up to a rest of that
kind, are all the payloads with these numbers that the string begins with
(`prefix_of_stream_append`).
-/

set_option autoImplicit false

namespace SqlWire

namespace Header

/-- Three digits hold no greater length, so every packet that a header announces is
of a size that can be sent. -/
theorem length_ofBytes_lt (bs : Bytes) : (ofBytes bs).length < 0x1000000 := by
  have hdigits := Bytes.toNat_lt (bs.take 3)
  have hcount : (bs.take 3).length = 0 ∨ (bs.take 3).length = 1 ∨ (bs.take 3).length = 2
      ∨ (bs.take 3).length = 3 := by
    have hle : (bs.take 3).length ≤ 3 := List.length_take_le 3 bs
    omega
  -- There may be fewer bytes than digits, which makes the number only smaller.
  show Bytes.toNat (bs.take 3) < 0x1000000
  rcases hcount with h | h | h | h
  all_goals
    rw [h] at hdigits
    simp only [Bytes.bound] at hdigits
    omega

/-- The header in front of a payload reads as it was written, whatever follows. Its
length has three bytes, hence the bound. -/
theorem ofBytes_frame_append {p : Packet} (h : p.payload.length < 0x1000000) (rest : Bytes) :
    ofBytes (p.frame ++ rest) = ⟨p.payload.length, p.sequence⟩ := by
  have hbound : p.payload.length < Bytes.bound 3 := h
  have hdigits := Bytes.toNat_ofNat_of_lt hbound
  simp only [Bytes.ofNat] at hdigits
  simp [ofBytes, Packet.frame, encode, Bytes.ofNat, hdigits]

end Header

namespace Packet

/-- A packet takes the room of its payload and of a header. -/
theorem length_frame (p : Packet) : p.frame.length = Header.size + p.payload.length := by
  simp only [frame, Header.encode, Header.size, List.length_append, Bytes.length_ofNat,
    List.length_singleton]

/-- A header and as many bytes as it announces are a packet, the one that would be
framed to just these bytes. -/
theorem frame_ofBytes {head payload : Bytes} (hhead : head.length = Header.size)
    (hpayload : payload.length = (Header.ofBytes head).length) :
    frame ⟨(Header.ofBytes head).sequence, payload⟩ = head ++ payload := by
  rw [frame, hpayload]
  show (Header.ofBytes head).encode ++ payload = head ++ payload
  rw [Header.encode_ofBytes_of_length hhead]

/-- Two packets at the front of the same bytes are one, and the same bytes are left
behind them. Where a packet ends is told by its header alone, so there is no choice
in cutting a stream. -/
theorem frame_append_inj {p q : Packet} {rest rest' : Bytes} (hp : p.payload.length < 0x1000000)
    (hq : q.payload.length < 0x1000000) (h : p.frame ++ rest = q.frame ++ rest') :
    p = q ∧ rest = rest' := by
  -- The headers are the same, so the frames are equally long and can be cut off both
  -- sides.
  have hheader := Header.ofBytes_frame_append hp rest
  rw [h, Header.ofBytes_frame_append hq rest', Header.mk.injEq] at hheader
  obtain ⟨hlength, hsequence⟩ := hheader
  have hframe : p.frame.length = q.frame.length := by rw [length_frame, length_frame, hlength]
  obtain ⟨hsame, hrest⟩ := List.append_inj h hframe
  have hencode : (Header.encode ⟨p.payload.length, p.sequence⟩).length
      = (Header.encode ⟨q.payload.length, q.sequence⟩).length := by simp [Header.encode]
  obtain ⟨p₁, p₂⟩ := p
  obtain ⟨q₁, q₂⟩ := q
  obtain ⟨-, hpayload⟩ := List.append_inj hsame hencode
  simp only at hsequence hpayload
  refine ⟨?_, hrest⟩
  rw [hsequence, hpayload]

/-- The bytes are the beginning of a packet with the number, and header or payload
bytes of it are still missing. Without a whole header, nothing more is known of the
packet. -/
def Unfinished (sequence : UInt8) (bs : Bytes) : Prop :=
  bs.length < Header.size
    ∨ (Header.ofBytes bs).sequence = sequence
      ∧ bs.length < Header.size + (Header.ofBytes bs).length

/-- No whole packet with the number is in front. This is what a reader that has come
to its end without a failure can say of what it has left over. -/
def Lacks (sequence : UInt8) (bs : Bytes) : Prop :=
  ∀ payload : Bytes, payload.length < 0x1000000 → ¬ frame ⟨sequence, payload⟩ <+: bs

/-- What is missing of a packet cannot be there: bytes that break off within one do
not begin with a whole one. -/
theorem Unfinished.lacks {sequence : UInt8} {bs : Bytes} (h : Unfinished sequence bs) :
    Lacks sequence bs := by
  rintro payload hpayload ⟨rest, rfl⟩
  rw [Unfinished, Header.ofBytes_frame_append hpayload, List.length_append, length_frame] at h
  simp only at h
  omega

/-- A header with another number begins another packet, and the one that is looked
for is not there. -/
theorem lacks_of_sequence_ne {sequence : UInt8} {bs : Bytes}
    (h : (Header.ofBytes bs).sequence ≠ sequence) : Lacks sequence bs := by
  rintro payload hpayload ⟨rest, rfl⟩
  rw [Header.ofBytes_frame_append hpayload] at h
  exact h rfl

/-- Where nothing is left, no packet is left. -/
theorem lacks_nil (sequence : UInt8) : Lacks sequence [] := by
  have hunfinished : Unfinished sequence [] := .inl (by decide)
  exact hunfinished.lacks

/-- The number after some packets is the number after one and then after the others.
It wraps around on both sides. -/
theorem add_length_cons (start : UInt8) (payload : Bytes) (payloads : List Bytes) :
    start + UInt8.ofNat (payload :: payloads).length
      = start + 1 + UInt8.ofNat payloads.length := by
  rw [List.length_cons, Nat.add_comm, UInt8.ofNat_add, ← UInt8.add_assoc]
  rfl

/-- A stream of one packet is this packet, so laws about streams are laws about
packets. -/
theorem stream_singleton (start : UInt8) (payload : Bytes) :
    stream start [payload] = frame ⟨start, payload⟩ := by
  rw [stream_cons]
  exact List.append_nil _

/-- One more packet carries the number after all before it. -/
theorem stream_concat (start : UInt8) (payloads : List Bytes) (payload : Bytes) :
    stream start (payloads ++ [payload])
      = stream start payloads ++ frame ⟨start + UInt8.ofNat payloads.length, payload⟩ := by
  induction payloads generalizing start with
  | nil => simp [stream, number]
  | cons first payloads ih =>
    rw [List.cons_append, stream_cons, ih, stream_cons, List.append_assoc, add_length_cons]

/-- Two readings of the same bytes agree: where the first one has come to an end
because no packet with the number that is due is left, it has read all that the
second one has. The induction is on the second reading, which is the one that is to
be found in the first. -/
theorem prefix_of_stream_append {start : UInt8} {payloads others : List Bytes} {tail more : Bytes}
    (hpayloads : ∀ p ∈ payloads, p.length < 0x1000000)
    (hothers : ∀ p ∈ others, p.length < 0x1000000)
    (hlacks : Lacks (start + UInt8.ofNat payloads.length) tail)
    (h : stream start payloads ++ tail = stream start others ++ more) : others <+: payloads := by
  induction others generalizing start payloads with
  | nil => exact List.nil_prefix
  | cons other others ih =>
    rw [stream_cons, List.append_assoc] at h
    cases payloads with
    | nil =>
      -- Nothing has been read, so the packet that the second reading begins with is left.
      have hstart : start + UInt8.ofNat ([] : List Bytes).length = start := by simp
      rw [hstart] at hlacks
      have hfront : frame ⟨start, other⟩ <+: tail := ⟨_, h.symm⟩
      exact absurd hfront (hlacks other (hothers other List.mem_cons_self))
    | cons payload payloads =>
      rw [stream_cons, List.append_assoc] at h
      obtain ⟨hsame, hrest⟩ := frame_append_inj (hpayloads payload List.mem_cons_self)
        (hothers other List.mem_cons_self) h
      rw [add_length_cons] at hlacks
      -- Both readings begin with one packet, and go on with the next number behind it.
      have hprefix : others <+: payloads :=
        ih (List.forall_mem_cons.mp hpayloads).2 (List.forall_mem_cons.mp hothers).2 hlacks hrest
      rw [Packet.mk.injEq] at hsame
      obtain ⟨-, rfl⟩ := hsame
      exact List.cons_prefix_cons.mpr ⟨rfl, hprefix⟩

end Packet

end SqlWire
