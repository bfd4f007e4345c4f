import SqlWire.Proofs.Channel.Frame
import SqlWire.Proofs.Packet

/-!
# Reading packets off a stream of bytes

What a channel makes of the bytes that reach it does not depend on how they reach
it, as long as no wait is longer than its poll budget. `Stream` is a channel without
a transport: the bytes that are still to come and the number of the next packet.
`Stream.receive` reads a packet off it, by the lengths alone, without a poll or a
credit.

`Delivery` says what a transport has to do so that a channel over it reads as the
stream does: answer a wait with a count of bytes that are there, deliver these
bytes, and fall silent for good only when the bytes are used up.
`Delivery.simulates_receive` is what follows.
-/

set_option autoImplicit false

namespace SqlWire

open SqlWire.Action

/-- The bytes that a channel can still read, and the number of its next packet. It
is a channel of which everything has been left out that depends on when bytes
arrive. -/
structure Stream where
  sequence : UInt8
  unread : Bytes
deriving DecidableEq, Repr

namespace Stream

/-- The next `n` bytes. A stream that holds fewer is used up in waiting for the
rest, as a read that runs out of time has taken what was there. -/
def take (n : Nat) : EStateM Error Stream Bytes := do
  match Bytes.splitExactly n (← get).unread with
  | some (taken, rest) =>
    modify fun s => { s with unread := rest }
    return taken
  | none =>
    modify fun s => { s with unread := [] }
    throw .timeout

/-- Reads the next packet: four bytes of header, which must carry the number that is
due, and as many bytes of payload as they announce. The errors are those of a
channel, text and all. -/
def receive : EStateM Error Stream Packet := do
  let head ← take Header.size
  let header := Header.ofBytes head
  Action.ensure (header.sequence = (← get).sequence)
    (.breachIn
      s!"Packet out of order: expected sequence {(← get).sequence}, got {header.sequence}" head)
  modify fun s => { s with sequence := header.sequence + 1 }
  let payload ← take header.length
  return { sequence := header.sequence, payload }

/-- A packet with the number that is due is read as it was framed, whatever follows
it. The length must fit the three digits of the header, for beyond them the header
would announce less than there is. -/
theorem run_receive_frame_append {p : Packet} (h : p.payload.length < 0x1000000) (rest : Bytes) :
    receive.run ⟨p.sequence, p.frame ++ rest⟩ = .ok p ⟨p.sequence + 1, rest⟩ := by
  have hhead : (Header.encode ⟨p.payload.length, p.sequence⟩).length = Header.size := by
    simp [Header.encode, Header.size]
  -- The three digits hold the length whole, so the header says how long the payload is.
  have hlength : p.payload.length % 0x1000000 = p.payload.length := Nat.mod_eq_of_lt h
  simp only [receive, take, Packet.frame, List.append_assoc, EStateM.run_bind, EStateM.run_get,
    Bytes.splitExactly_append _ hhead, Header.ofBytes_encode, hlength, EStateM.run_modify,
    EStateM.run_pure, run_ensure, if_true, Bytes.splitExactly_append _ (rfl : _ = p.payload.length)]

end Stream

namespace Channel

variable {τ : Type} [Transport τ]

/-- A transport that delivers a stream: `holds t bs n` says that at `t` the bytes
`bs` are still to come and that `n` of them have been announced. -/
structure Delivery (attempts : Nat) (holds : τ → Bytes → Nat → Prop) : Prop where
  announced_le : ∀ {t : τ} {bs : Bytes} {n : Nat}, holds t bs n → n ≤ bs.length
  /-- A wait announces some of the bytes to come; only where there are none it gives up. -/
  await : ∀ {t : τ} {bs : Bytes}, holds t bs 0 →
    Ends (await attempts) t (fun n t' => n ≠ 0 ∧ holds t' bs n)
      (fun e t' => e = .timeout ∧ bs = [] ∧ holds t' bs 0)
  /-- A byte that has been announced is there. -/
  readByte : ∀ {t : τ} {bs : Bytes} {n : Nat}, holds t bs (n + 1) →
    Ends Transport.readByte t (fun b t' => ∃ rest, bs = b :: rest ∧ holds t' rest n)
      (fun _ _ => False)
  /-- What has been announced and not been read is announced again. -/
  forget : ∀ {t : τ} {bs : Bytes} {n : Nat}, holds t bs n → holds t bs 0

variable {attempts : Nat} {holds : τ → Bytes → Nat → Prop}

/-- A round begins with a count of bytes that are there. Either the credit says so
already, or a wait does; where the wait gives up, there are no bytes left. -/
theorem Delivery.ends_replenish (h : Delivery attempts holds) {t : τ} {bs : Bytes} {credit : Nat}
    (ht : holds t bs credit) :
    Ends (replenish attempts credit) t (fun n t' => n ≠ 0 ∧ holds t' bs n)
      (fun e t' => e = .timeout ∧ bs = [] ∧ holds t' bs 0) := by
  unfold replenish
  split
  case isTrue hcredit =>
    subst hcredit
    exact h.await ht
  case isFalse hcredit => exact ⟨hcredit, ht⟩

/-- Reading takes the next bytes of the stream, or all of them where they do not
suffice. How the bytes were announced has no part in it: the credit only decides how
often the transport is polled. -/
theorem Delivery.ends_readExactly (h : Delivery attempts holds) (missing : Nat) {t : τ} {bs : Bytes}
    {credit : Nat} (ht : holds t bs credit) (done : Bytes) :
    Ends (readExactly attempts missing credit done) t
      (fun out t' => missing ≤ bs.length ∧ out = done.reverse ++ bs.take missing
        ∧ holds t' (bs.drop missing) 0)
      (fun e t' => bs.length < missing ∧ e = .timeout ∧ holds t' [] 0) := by
  -- Each round takes one byte off the stream; `done` collects them in reverse.
  induction missing generalizing t bs credit done with
  | zero => exact ⟨Nat.zero_le _, (List.append_nil _).symm, h.forget ht⟩
  | succ missing ih =>
    rw [readExactly, ends_bind]
    apply (h.ends_replenish ht).mono
    · intro n t₁ h₁
      obtain ⟨hn, ht₁⟩ := h₁
      -- A byte has been announced, so reading it cannot fail.
      obtain ⟨n, rfl⟩ := Nat.exists_eq_succ_of_ne_zero hn
      rw [ends_bind, takeByte, ends_adaptExcept]
      refine (h.readByte ht₁).mono ?_ (fun _ _ h₂ => h₂.elim)
      intro b t₂ h₂
      obtain ⟨rest, rfl, ht₂⟩ := h₂
      apply (ih ht₂ (b :: done)).mono
      · intro out t₃ h₃
        obtain ⟨hle, rfl, ht₃⟩ := h₃
        refine ⟨Nat.succ_le_succ hle, ?_, ht₃⟩
        rw [List.reverse_cons, List.append_assoc, List.singleton_append, List.take_succ_cons]
      · intro e t₃ h₃
        obtain ⟨hlt, he, ht₃⟩ := h₃
        exact ⟨Nat.succ_lt_succ hlt, he, ht₃⟩
    · intro e t₁ h₁
      obtain ⟨he, rfl, ht₁⟩ := h₁
      exact ⟨Nat.zero_lt_succ _, he, ht₁⟩

/-- The channel has before it what the stream has: the same bytes, none of them
announced, the same number due. It holds between two reads of a packet, where no
credit is carried over. -/
structure Follows (attempts : Nat) (holds : τ → Bytes → Nat → Prop) (c : Channel τ) (s : Stream) :
    Prop where
  unread : holds c.transport s.unread 0
  sequence : c.sequence = s.sequence
  readAttempts : c.readAttempts = attempts

/-- One read of fixed length, on the stream and on the channel. They give the same
bytes or time out together, and what is to come afterwards is the same. -/
theorem Delivery.ends_take (h : Delivery attempts holds) (n : Nat) {t : τ} {s : Stream}
    (ht : holds t s.unread 0) :
    Ends (readExactly attempts n 0 []) t
      (fun out t' => ∃ s', (Stream.take n).run s = .ok out s' ∧ holds t' s'.unread 0
        ∧ s'.sequence = s.sequence)
      (fun e t' => ∃ s', (Stream.take n).run s = .error e s' ∧ holds t' s'.unread 0
        ∧ s'.sequence = s.sequence) := by
  apply (h.ends_readExactly n ht []).mono
  · intro out t' h'
    obtain ⟨hle, rfl, ht'⟩ := h'
    have hsplit : Bytes.splitExactly n s.unread = some (s.unread.take n, s.unread.drop n) :=
      Bytes.splitExactly_eq_some_iff.mpr
        ⟨(List.take_append_drop n s.unread).symm, List.length_take_of_le hle⟩
    refine ⟨{ s with unread := s.unread.drop n }, ?_, ht', rfl⟩
    simp [Stream.take, hsplit]
  · -- A stream that is too short gives up all of its bytes, as the transport does.
    intro e t' h'
    obtain ⟨hlt, rfl, ht'⟩ := h'
    have hsplit : Bytes.splitExactly n s.unread = none := Bytes.splitExactly_eq_none_iff.mpr hlt
    refine ⟨{ s with unread := [] }, ?_, ht', rfl⟩
    simp [Stream.take, hsplit]

/-- Receiving a packet comes to what reading it off the stream comes to, and leaves
the channel with what it leaves of the stream. The results are equal as they stand,
the texts of errors included. -/
theorem Delivery.simulates_receive (h : Delivery attempts holds) :
    Simulates (Follows attempts holds) receive Stream.receive := by
  intro c s hc
  obtain ⟨hunread, hsequence, rfl⟩ := hc
  simp only [receive, receiveHeader, onTransport, note, ends_bind, ends_get, ends_focus,
    ends_ensure, ends_modify, ends_pure]
  -- Both sides read the header first, and it is the same, for the same bytes are before them.
  apply (h.ends_take Header.size hunread).mono
  · intro head t₁ h₁
    obtain ⟨s₁, hrun₁, hunread₁, hsequence₁⟩ := h₁
    rw [hsequence, ← hsequence₁]
    -- So both accept its number, or both refuse it.
    split
    case isTrue hnumber =>
      refine (h.ends_take _ (s := { s₁ with sequence := (Header.ofBytes head).sequence + 1 })
        hunread₁).mono ?_ ?_
      · intro payload t₂ h₂
        obtain ⟨s₂, hrun₂, hunread₂, hsequence₂⟩ := h₂
        refine ⟨s₂, ?_, hunread₂, hsequence₂.symm, rfl⟩
        simp only [Stream.receive, EStateM.run_bind, hrun₁, EStateM.run_get, run_ensure,
          if_pos hnumber, EStateM.run_modify, hrun₂, EStateM.run_pure]
      · intro e t₂ h₂
        obtain ⟨s₂, hrun₂, hunread₂, hsequence₂⟩ := h₂
        refine ⟨s₂, ?_, hunread₂, hsequence₂.symm, rfl⟩
        simp only [Stream.receive, EStateM.run_bind, hrun₁, EStateM.run_get, run_ensure,
          if_pos hnumber, EStateM.run_modify, hrun₂]
    case isFalse hnumber =>
      refine ⟨s₁, ?_, hunread₁, rfl, rfl⟩
      simp only [Stream.receive, EStateM.run_bind, hrun₁, EStateM.run_get, run_ensure,
        if_neg hnumber]
  · intro e t₁ h₁
    obtain ⟨s₁, hrun₁, hunread₁, hsequence₁⟩ := h₁
    refine ⟨s₁, ?_, hunread₁, hsequence.trans hsequence₁.symm, rfl⟩
    simp only [Stream.receive, EStateM.run_bind, hrun₁]

/-- A packet at the front of what is to come is received, and the rest is to come
behind it. This is the form in which a result set is followed packet by packet. -/
theorem Delivery.ends_receive_frame (h : Delivery attempts holds) {c : Channel τ} {payload : Bytes}
    {rest : Bytes} (hattempts : c.readAttempts = attempts)
    (hc : holds c.transport (Packet.frame ⟨c.sequence, payload⟩ ++ rest) 0)
    (hlength : payload.length < 0x1000000) :
    Ends receive c
      (fun p c' => p = ⟨c.sequence, payload⟩ ∧ holds c'.transport rest 0
        ∧ c'.sequence = c.sequence + 1 ∧ c'.readAttempts = attempts)
      (fun _ _ => False) := by
  have hfollows : c.Follows attempts holds
      ⟨c.sequence, Packet.frame ⟨c.sequence, payload⟩ ++ rest⟩ := ⟨hc, rfl, hattempts⟩
  have hstream := Stream.run_receive_frame_append (p := ⟨c.sequence, payload⟩) hlength rest
  refine (h.simulates_receive c _ hfollows).mono ?_ ?_
  · intro p c' hp
    obtain ⟨s', hrun, hs'⟩ := hp
    -- What the stream reads is known, so both ends of the simulation are.
    rw [hstream] at hrun
    cases hrun
    exact ⟨rfl, hs'.unread, hs'.sequence, hs'.readAttempts⟩
  · intro e c' he
    obtain ⟨s', hrun, -⟩ := he
    rw [hstream] at hrun
    cases hrun

end Channel

end SqlWire
