import SqlWire.Proofs.Channel.Stream
import SqlWire.Proofs.Transport.Memory
import SqlWire.Proofs.Transport.Recorded

/-!
# Transports that deliver and take what is written

A delivery (`Channel.Delivery`) is about reading alone. A supply is one that goes on
while the client writes: each buffer is taken, and the bytes to come are the same
afterwards. A transport in memory that is connected is a supply
(`MemoryTransport.supply_loaded`), and what a transport delivers and takes, it
delivers and takes while a record of it is kept (`Supply.recorded`).
-/

set_option autoImplicit false

namespace SqlWire

open SqlWire.Action

namespace Channel

variable {τ : Type} [Transport τ] {attempts : Nat} {holds : τ → Bytes → Nat → Prop}

/-- A transport that delivers a stream and takes whatever is written to it
meanwhile. The server's bytes are fixed beforehand, so they are the same whatever
the client says. -/
structure Supply (attempts : Nat) (holds : τ → Bytes → Nat → Prop) : Prop extends
    Delivery attempts holds where
  write : ∀ {t : τ} {bs : Bytes} (sent : Bytes), holds t bs 0 →
    Ends (Transport.write sent) t (fun _ t' => holds t' bs 0) (fun _ _ => False)

/-- A wait does not notice that it is recorded. Whatever is known of the wait on the
transport inside is known of it here, since its polls are answered by that
transport. -/
theorem ends_await_recorded {ok : Nat → τ → Prop} {bad : Error → τ → Prop} {t : Recorded τ}
    (h : Ends (await attempts) t.inner ok bad) :
    Ends (await attempts) t (fun n t' => ok n t'.inner) (fun e t' => bad e t'.inner) := by
  -- Each poll goes to the transport inside, and the record of it is in nobody's way.
  induction attempts generalizing t with
  | zero => exact h
  | succ attempts ih =>
    simp only [await, poll, ends_bind, ends_adaptExcept] at h ⊢
    show Ends (Recorded.recording .available Transport.available) t _ _
    rw [Recorded.ends_recording]
    refine h.mono ?_ (fun _ _ he => he)
    intro n inner hn
    split
    case isTrue hzero =>
      rw [if_pos hzero] at hn
      exact ih hn
    case isFalse hsome =>
      rw [if_neg hsome] at hn
      exact hn

/-- A supply is one under the eyes of a record, for recording changes nothing that
the transport does. -/
theorem Supply.recorded (h : Supply attempts holds) :
    Supply attempts fun (t : Recorded τ) => holds t.inner where
  announced_le ht := h.announced_le ht
  await ht := ends_await_recorded (h.await ht)
  readByte {t bs n} ht := by
    show Ends (Recorded.recording .readByte Transport.readByte) t _ _
    rw [Recorded.ends_recording]
    exact h.readByte ht
  forget ht := h.forget ht
  write {t bs} sent ht := by
    show Ends (Recorded.recording _ (Transport.write sent)) t _ _
    rw [Recorded.ends_recording]
    exact h.write sent ht

/-- A payload that fits one packet is sent, and the same bytes are to come. There is
no other end, for the transport takes the buffer. -/
theorem Supply.ends_send (h : Supply attempts holds) {c : Channel τ} {bs : Bytes} {payload : Bytes}
    (hattempts : c.readAttempts = attempts) (hc : holds c.transport bs 0)
    (hlength : payload.length < maxPayload) :
    Ends (send payload) c
      (fun _ c' => holds c'.transport bs 0 ∧ c'.sequence = c.sequence + 1
        ∧ c'.readAttempts = attempts)
      (fun _ _ => False) := by
  simp only [send, note, onTransport, ends_bind, ends_get, ends_ensure, if_pos hlength, ends_modify,
    ends_focus, ends_adaptExcept]
  refine (h.write _ hc).mono ?_ (fun _ _ hfalse => hfalse)
  intro _ t ht
  exact ⟨ht, trivial, hattempts⟩

end Channel

namespace MemoryTransport

/-- The transport is connected, with these bytes to come. The origin that this is
counted from does not matter. -/
def Loaded (t : MemoryTransport) (bs : Bytes) (announced : Nat) : Prop :=
  ∃ origin, Holds origin t bs announced ∧ origin.connected = true

/-- Memory that is connected delivers what it holds and keeps what is written.
Reading is the delivery from before; that the connection lasts is what it has to say
in addition. -/
theorem supply_loaded {attempts : Nat} (hattempts : 0 < attempts) :
    Channel.Supply attempts Loaded where
  announced_le := by
    rintro t bs n ⟨origin, h, -⟩
    exact h.announced_le
  await := by
    rintro t bs ⟨origin, h, hconnected⟩
    refine ((delivery_holds hattempts origin).await h).mono ?_ ?_
    · intro n t' h'
      obtain ⟨hsome, h'⟩ := h'
      exact ⟨hsome, origin, h', hconnected⟩
    · intro e t' h'
      obtain ⟨htimeout, hnone, h'⟩ := h'
      exact ⟨htimeout, hnone, origin, h', hconnected⟩
  readByte := by
    rintro t bs n ⟨origin, h, hconnected⟩
    refine ((delivery_holds hattempts origin).readByte h).mono ?_ (fun _ _ hfalse => hfalse)
    intro b t' h'
    obtain ⟨rest, heq, h'⟩ := h'
    exact ⟨rest, heq, origin, h', hconnected⟩
  forget := by
    rintro t bs n ⟨origin, h, hconnected⟩
    exact ⟨origin, ⟨h.eq, Nat.zero_le _⟩, hconnected⟩
  write := by
    rintro t bs sent ⟨origin, ⟨rfl, -⟩, hconnected⟩
    show Ends (MemoryTransport.write sent) _ _ _
    simp only [MemoryTransport.write, ends_bind, ends_get, ends_ensure, if_pos hconnected, ends_set]
    -- The origin changes with a write, but neither its connection nor what is to come.
    exact ⟨{ origin with written := origin.written ++ sent }, ⟨rfl, Nat.zero_le _⟩, hconnected⟩

end MemoryTransport

end SqlWire
