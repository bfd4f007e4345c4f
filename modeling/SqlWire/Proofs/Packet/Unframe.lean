import SqlWire.Proofs.Packet.Front
import SqlWire.Transport.Memory

/-!
# Cutting recorded bytes into packets

`Packet.unframe` takes one packet after another off a byte string: what the header
in front announces, as far as the bytes go (`Packet.front`). One round is
`unframe_eq_cons_iff`, and from it an induction on the packets gives what all rounds
do: whatever has been cut off, the cutting goes on behind it
(`unframe_drop_extent`), and it ends with less than a header left
(`extent_unframe_le`, `length_lt_extent_unframe`).

`MemoryTransport.writtenPackets_sound` says this of the bytes that a transport in
memory has kept. Packets that were written one by one come back as they are, and any
other bytes are cut into consecutive pieces of which only the last one can be short.
-/

set_option autoImplicit false

namespace SqlWire

namespace Packet

/-- The packet that the header in front announces, as far as the bytes go. Bytes
that are cut off in the middle of a packet still give one, with a payload that is
too short. -/
def front (bs : Bytes) : Packet :=
  ⟨(Header.ofBytes bs).sequence, (bs.drop Header.size).take (Header.ofBytes bs).length⟩

/-- Bytes that the packets take, headers included. What was written is as long as
this and a rest of less than a header. -/
def extent : List Packet → Nat
  | [] => 0
  | p :: packets => Header.size + p.payload.length + extent packets

variable {bs : Bytes} {p : Packet} {packets before after : List Packet}

/-- A packet at the front has as many bytes as its header announces, or as many as
there are. -/
theorem length_front_payload :
    (front bs).payload.length = min (Header.ofBytes bs).length (bs.length - Header.size) := by
  rw [front, List.length_take, List.length_drop]

/-- Behind a packet that is cut short there is nothing, as there is behind the
length that its header announces. -/
theorem drop_front (h : Header.size ≤ bs.length) :
    bs.drop (Header.size + (front bs).payload.length)
      = bs.drop (Header.size + (Header.ofBytes bs).length) := by
  rw [length_front_payload]
  rcases Nat.le_total (Header.ofBytes bs).length (bs.length - Header.size) with hle | hle
  · rw [Nat.min_eq_left hle]
  · rw [Nat.min_eq_right hle, List.drop_of_length_le (by omega), List.drop_of_length_le (by omega)]

/-- Less than a header is no packet, so nothing is cut off. -/
theorem unframe_of_length_lt (h : bs.length < Header.size) : unframe bs = [] := by
  unfold unframe
  split
  · simp only [List.length_cons, Header.size] at h
    omega
  · rfl

/-- Of no bytes nothing is cut off. -/
theorem unframe_nil : unframe [] = [] := by
  apply unframe_of_length_lt
  decide

/-- Behind a header the packet in front is cut off, and the cutting goes on behind
it. -/
theorem unframe_of_le (h : Header.size ≤ bs.length) :
    unframe bs = front bs :: unframe (bs.drop (Header.size + (front bs).payload.length)) := by
  rw [drop_front h, ← List.drop_drop]
  match bs, h with
  | low :: mid :: high :: sequence :: rest, _ =>
    rw [unframe]
    rfl

/-- Nothing is cut off of less than a header, and of nothing else. A header alone
makes a packet, though one that is short. -/
theorem unframe_eq_nil_iff : unframe bs = [] ↔ bs.length < Header.size := by
  constructor
  · intro h
    refine Nat.lt_of_not_le ?_
    intro hle
    rw [unframe_of_le hle] at h
    cases h
  · exact unframe_of_length_lt

/-- One round: there is a header, the packet is what it announces, and the others
are cut off behind it. The definition is not looked at again after this. -/
theorem unframe_eq_cons_iff :
    unframe bs = p :: packets ↔ Header.size ≤ bs.length ∧ p = front bs
      ∧ packets = unframe (bs.drop (Header.size + p.payload.length)) := by
  constructor
  · intro h
    have hle : Header.size ≤ bs.length := by
      refine Nat.le_of_not_lt ?_
      intro hlt
      rw [unframe_of_length_lt hlt] at h
      cases h
    rw [unframe_of_le hle, List.cons.injEq] at h
    obtain ⟨rfl, hrest⟩ := h
    exact ⟨hle, rfl, hrest.symm⟩
  · rintro ⟨hle, rfl, rfl⟩
    exact unframe_of_le hle

/-- Whatever has been cut off, the cutting goes on behind it. The induction is on
the packets that have been cut off, with the bytes left open, because each round
leaves fewer. -/
theorem unframe_drop_extent (h : unframe bs = before ++ after) :
    unframe (bs.drop (extent before)) = after := by
  induction before generalizing bs with
  | nil => exact h
  | cons p before ih =>
    obtain ⟨-, -, hrest⟩ := unframe_eq_cons_iff.mp h
    rw [extent, ← List.drop_drop]
    exact ih hrest.symm

/-- A packet at the front does not take more bytes than there are. If its header
announces more, it has what there is. -/
theorem length_front_payload_add_le (h : Header.size ≤ bs.length) :
    Header.size + (front bs).payload.length ≤ bs.length := by
  rw [length_front_payload]
  omega

/-- The packets do not take more bytes than there are. The induction is on the
rounds of cutting off. -/
theorem extent_unframe_le (bs : Bytes) : extent (unframe bs) ≤ bs.length := by
  generalize h : unframe bs = packets
  induction packets generalizing bs with
  | nil => exact Nat.zero_le _
  | cons p packets ih =>
    obtain ⟨hle, rfl, hrest⟩ := unframe_eq_cons_iff.mp h
    have hfront := length_front_payload_add_le hle
    have hpackets := ih _ hrest.symm
    rw [List.length_drop] at hpackets
    rw [extent]
    omega

/-- What the packets leave over is less than a header. So at most three bytes are
not accounted for. -/
theorem length_lt_extent_unframe (bs : Bytes) :
    bs.length < extent (unframe bs) + Header.size := by
  have hend : unframe (bs.drop (extent (unframe bs))) = [] :=
    unframe_drop_extent (List.append_nil _).symm
  have hleft := unframe_eq_nil_iff.mp hend
  rw [List.length_drop] at hleft
  omega

/-- Each packet takes four bytes at least, so there are at most a quarter as many
packets as bytes. -/
theorem mul_length_le_extent (packets : List Packet) :
    Header.size * packets.length ≤ extent packets := by
  induction packets with
  | nil => exact Nat.le_refl _
  | cons p packets ih =>
    rw [List.length_cons, extent, Nat.mul_succ]
    omega

/-- A packet with another one behind it is as long as its header announces. Only the
last one can be short. -/
theorem length_payload_of_unframe_eq (h : unframe bs = p :: packets) (hpackets : packets ≠ []) :
    p.payload.length = (Header.ofBytes bs).length := by
  obtain ⟨-, rfl, hrest⟩ := unframe_eq_cons_iff.mp h
  have hle : (front bs).payload.length ≤ (Header.ofBytes bs).length := by
    rw [length_front_payload]
    exact Nat.min_le_left _ _
  -- A packet cut short takes all the bytes, and leaves none for another one.
  refine Nat.le_antisymm hle (Nat.le_of_not_lt ?_)
  intro hlt
  have hall : bs.length ≤ Header.size + (front bs).payload.length := by
    rw [length_front_payload] at hlt ⊢
    omega
  rw [List.drop_of_length_le hall, unframe_nil] at hrest
  exact hpackets hrest

/-- Packets are cut off as they were framed, whatever follows. The induction is on
the packets, each taken off the front. -/
theorem unframe_flatMap_frame_append (h : ∀ p ∈ packets, p.payload.length < 0x1000000)
    (rest : Bytes) : unframe (packets.flatMap frame ++ rest) = packets ++ unframe rest := by
  induction packets with
  | nil => rfl
  | cons p packets ih =>
    obtain ⟨hp, hpackets⟩ := List.forall_mem_cons.mp h
    rw [List.flatMap_cons, List.append_assoc, unframe_frame_append hp, ih hpackets,
      List.cons_append]

end Packet

namespace MemoryTransport

/-- Packets that are written one after another are kept in this order, behind what
was kept before. -/
theorem run_forM_write {t : MemoryTransport} (h : t.connected = true) (packets : List Packet) :
    (forM packets fun p => Transport.write p.frame).run t
      = .ok () { t with written := t.written ++ packets.flatMap Packet.frame } := by
  induction packets generalizing t with
  | nil => simp
  | cons p packets ih =>
    have hrest := @ih { t with written := t.written ++ p.frame } h
    rw [List.append_assoc] at hrest
    simp [run_write h, hrest]

/-- Cutting the kept bytes undoes framing. Packets whose lengths fit a header,
written one by one from the start of the record, come back as they are. Whatever
else has been kept, each packet that is cut off is what the header behind the
packets before it announces, as far as the bytes go, and is whole if another packet
follows it. The packets and fewer than four bytes more make up the record, so a
round of the cutting uses up four bytes at least. -/
theorem writtenPackets_sound (t : MemoryTransport) :
    (∀ packets : List Packet, t.connected = true → t.written = [] →
      (∀ p ∈ packets, p.payload.length < 0x1000000) →
      ∃ t', (forM packets fun p => Transport.write p.frame).run t = .ok () t'
        ∧ t'.writtenPackets = packets)
    ∧ (∀ before p after, t.writtenPackets = before ++ p :: after →
      let bs := t.written.drop (Packet.extent before)
      Header.size ≤ bs.length ∧ p = Packet.front bs
        ∧ (after ≠ [] → p.payload.length = (Header.ofBytes bs).length))
    ∧ (∃ tail < Header.size, Packet.extent t.writtenPackets + tail = t.written.length)
    ∧ Header.size * t.writtenPackets.length ≤ t.written.length := by
  have hfits := Packet.extent_unframe_le t.written
  -- What is left over are the bytes that the packets do not take.
  refine ⟨?_, ?_, ⟨t.written.length - Packet.extent t.writtenPackets, ?_, ?_⟩, ?_⟩
  · intro packets hconnected hwritten hpackets
    refine ⟨_, run_forM_write hconnected packets, ?_⟩
    have hframes := Packet.unframe_flatMap_frame_append hpackets []
    rw [Packet.unframe_nil, List.append_nil, List.append_nil] at hframes
    rw [writtenPackets, hwritten]
    exact hframes
  · intro before p after hcut
    have hfront := Packet.unframe_drop_extent hcut
    obtain ⟨hheader, heq, -⟩ := Packet.unframe_eq_cons_iff.mp hfront
    exact ⟨hheader, heq, Packet.length_payload_of_unframe_eq hfront⟩
  · have hleft := Packet.length_lt_extent_unframe t.written
    rw [writtenPackets]
    omega
  · rw [writtenPackets]
    omega
  · exact Nat.le_trans (Packet.mul_length_le_extent _) hfits

/-- Two packets that are written, one of them empty, and a record in which a header
announces more than there is. -/
theorem writtenPackets_sound_of_short :
    (∃ t', (forM [⟨0, []⟩, ⟨3, [1, 2]⟩] fun p : Packet => Transport.write p.frame).run
        { connected := true : MemoryTransport } = .ok () t'
      ∧ t'.writtenPackets = [⟨0, []⟩, ⟨3, [1, 2]⟩])
    ∧ let t : MemoryTransport := { written := [1, 0, 0, 7, 5, 9, 0, 0, 1, 8] }
      t.writtenPackets = [⟨7, [5]⟩, ⟨1, [8]⟩]
        ∧ ([5] : Bytes).length = (Header.ofBytes t.written).length
        ∧ (⟨1, [8]⟩ : Packet) = Packet.front (t.written.drop 5) := by
  have hcut : ({ written := [1, 0, 0, 7, 5, 9, 0, 0, 1, 8] } : MemoryTransport).writtenPackets
      = [⟨7, [5]⟩, ⟨1, [8]⟩] := by
    rw [writtenPackets, Packet.unframe_of_le (by decide), Packet.unframe_of_le (by decide),
      Packet.unframe_of_length_lt (by decide)]
    decide
  obtain ⟨hframed, -⟩ := writtenPackets_sound { connected := true : MemoryTransport }
  obtain ⟨-, hpieces, -⟩ :=
    writtenPackets_sound { written := [1, 0, 0, 7, 5, 9, 0, 0, 1, 8] : MemoryTransport }
  obtain ⟨-, -, hwhole⟩ := hpieces [] ⟨7, [5]⟩ [⟨1, [8]⟩] hcut
  obtain ⟨-, hlast, -⟩ := hpieces [⟨7, [5]⟩] ⟨1, [8]⟩ [] hcut
  exact ⟨hframed _ rfl rfl (by decide), hcut, hwhole (by decide), hlast⟩

end MemoryTransport

end SqlWire
