import SqlWire.Proofs.Channel.Stream
import SqlWire.Transport.Memory

/-!
# Packets out of memory

A transport in memory announces all its bytes at every poll and never falls silent
before they are used up, so it delivers them as a stream (`delivery_holds`), and a
packet at the front is received as it was framed (`Channel.run_receive_frame`).
`MemoryTransport.welcoming` is a server to open a session with.
-/

set_option autoImplicit false

namespace SqlWire

open SqlWire.Action

namespace MemoryTransport

/-- The transport is what the origin was, with these bytes to come. Everything else
that it has, such as its connection and what was written to it, is that of the
origin. -/
structure Holds (origin t : MemoryTransport) (bs : Bytes) (announced : Nat) : Prop where
  eq : t = { origin with incoming := bs }
  announced_le : announced ≤ bs.length

/-- Where nothing is to come, no wait ends well. Every poll finds nothing, and none
changes anything. -/
theorem ends_await_empty (attempts : Nat) {t : MemoryTransport} (ht : t.incoming = []) :
    Ends (Channel.await attempts) t (fun _ _ => False) (fun e t' => e = .timeout ∧ t' = t) := by
  induction attempts with
  | zero => exact ⟨rfl, rfl⟩
  | succ attempts ih =>
    simp only [Channel.await, Channel.poll, ends_bind, ends_adaptExcept]
    show Ends MemoryTransport.available t _ _
    simp only [available, ends_bind, ends_get, ends_pure, ht, List.length_nil, if_true]
    exact ih

/-- Memory delivers the bytes that it holds, whatever the poll budget, as long as
there is one. A wait is over at the first poll, since all the bytes are announced at
once. -/
theorem delivery_holds {attempts : Nat} (hattempts : 0 < attempts) (origin : MemoryTransport) :
    Channel.Delivery attempts (Holds origin) where
  announced_le h := h.announced_le
  await := by
    rintro t bs ⟨rfl, -⟩
    cases bs with
    | nil =>
      refine (ends_await_empty attempts rfl).mono (fun _ _ h => h.elim) ?_
      intro e t' h
      obtain ⟨htimeout, hkept⟩ := h
      exact ⟨htimeout, rfl, hkept, Nat.le_refl _⟩
    | cons b rest =>
      -- The first poll is answered, and there is one.
      obtain ⟨attempts, rfl⟩ := Nat.exists_eq_succ_of_ne_zero (Nat.ne_of_gt hattempts)
      simp only [Channel.await, Channel.poll, ends_bind, ends_adaptExcept]
      show Ends MemoryTransport.available _ _ _
      simp only [available, ends_bind, ends_get, ends_pure, List.length_cons, Nat.succ_ne_zero,
        if_false]
      exact ⟨Nat.succ_ne_zero _, rfl, Nat.le_refl _⟩
  readByte := by
    rintro t bs n ⟨rfl, hn⟩
    obtain ⟨b, rest, rfl⟩ := List.exists_cons_of_length_pos (Nat.zero_lt_of_lt hn)
    exact ⟨rest, rfl, rfl, Nat.le_of_succ_le_succ hn⟩
  forget h := ⟨h.eq, Nat.zero_le _⟩

/-- A server that greets a client, lets it in, and has more to send afterwards. The
examples of later modules begin with it, so that their sessions are authenticated. -/
def welcoming (thread : UInt8) (rest : Bytes) : MemoryTransport where
  incoming :=
    Packet.frame ⟨0, [10, 0x35, 0, thread, 0, 0, 0, 1, 1, 1, 1, 1, 1, 1, 1, 0, 0, 2, 8, 2, 0, 0, 0, 0,
      0, 0, 0, 0, 0, 0, 0, 0, 0, 0, 2, 2, 2, 2, 2, 2, 2, 2, 2, 2, 2, 2, 0]⟩
    ++ Packet.frame ⟨2, [0, 0, 0, 2, 0, 0, 0]⟩ ++ rest

end MemoryTransport

/-- A packet at the front with the number that is due is received as it was framed,
and nothing changes but the bytes to come, the number, and the journal. The journal
is not said here, as nothing that follows a result set depends on it. -/
theorem Channel.run_receive_frame {c : Channel MemoryTransport} {p : Packet} {rest : Bytes}
    (hattempts : 0 < c.readAttempts) (hincoming : c.transport.incoming = p.frame ++ rest)
    (hsequence : p.sequence = c.sequence) (hlength : p.payload.length < 0x1000000) :
    ∃ journal, receive.run c = .ok p { c with
      transport := { c.transport with incoming := rest }
      sequence := c.sequence + 1
      journal } := by
  obtain ⟨sequence, payload⟩ := p
  obtain rfl : sequence = c.sequence := hsequence
  have hsame : c.transport
      = { c.transport with incoming := Packet.frame ⟨c.sequence, payload⟩ ++ rest } := by
    rw [← hincoming]
  have hholds : MemoryTransport.Holds c.transport c.transport
      (Packet.frame ⟨c.sequence, payload⟩ ++ rest) 0 := ⟨hsame, Nat.zero_le _⟩
  have hend := (MemoryTransport.delivery_holds hattempts c.transport).ends_receive_frame rfl
    hholds hlength
  cases hrun : receive.run c with
  | ok p c' =>
    rw [Ends, hrun] at hend
    obtain ⟨rfl, htransport, hnumber, hbudget⟩ := hend
    refine ⟨c'.journal, congrArg _ ?_⟩
    -- Every field of the channel is known now but the journal.
    obtain ⟨transport, sequence, readAttempts, journal⟩ := c'
    cases htransport.eq
    cases hnumber
    cases hbudget
    rfl
  | error e c' =>
    rw [Ends, hrun] at hend
    exact hend.elim

end SqlWire
