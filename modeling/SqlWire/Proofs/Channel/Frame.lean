import SqlWire.Channel
import SqlWire.Proofs.Ends

/-!
# What a channel leaves alone

A channel asks its transport for bytes, for their count and for a write, and for
nothing else. So whatever these three operations keep true of the transport,
receiving and sending keep true of it (`maintains_receive`, `maintains_send`), in
any state and however they end.
-/

set_option autoImplicit false

namespace SqlWire.Channel

open SqlWire.Action

variable {τ : Type} {I : τ → Prop}

/-- What an action keeps true of the transport, it keeps true within a channel. The
rest of the channel is put back around it. -/
theorem maintains_onTransport {α : Type} {action : EStateM Error τ α} (h : Maintains I action) :
    Maintains (fun c => I c.transport) (onTransport action) := by
  apply Maintains.focus
  · intro c
    rfl
  · intro c
    exact h

/-- No dealing with the transport changes the poll budget, which the transport does
not know of. -/
theorem maintains_readAttempts_onTransport {α : Type} (attempts : Nat)
    (action : EStateM Error τ α) :
    Maintains (fun c => c.readAttempts = attempts) (onTransport action) := by
  apply Maintains.focus
  · intro c
    rfl
  · -- The budget is no part of the transport, so this is a fact about nothing that changes.
    intro c
    exact maintains_const (c.readAttempts = attempts) action

/-- Entering an event in the journal leaves the transport alone, so every fact about
it stays. -/
theorem maintains_note (event : Event) : Maintains (fun c => I c.transport) (note event) := by
  apply maintains_modify
  intro c hc
  exact hc

/-- So does starting a new exchange, which is a matter of the number alone. -/
theorem maintains_resetSequence : Maintains (fun c => I c.transport) resetSequence := by
  apply maintains_modify
  intro c hc
  exact hc

variable [Transport τ]

/-- The operations that reading asks of a transport keep a fact about it. Both are
asked for at either end, since a poll or a byte that fails may have changed the
transport as well. -/
structure ReadsKeep (I : τ → Prop) : Prop where
  readByte : Maintains I (Transport.readByte : EStateM IoError τ UInt8)
  available : Maintains I (Transport.available : EStateM IoError τ Nat)

/-- A wait asks only how many bytes there are, as often as its budget allows. The
induction is on that budget. -/
theorem maintains_await (h : Maintains I (Transport.available : EStateM IoError τ Nat))
    (attempts : Nat) : Maintains I (await attempts) := by
  induction attempts with
  | zero => exact maintains_throw _
  | succ attempts ih =>
    apply Maintains.bind (h.adaptExcept _)
    intro ready
    split
    · exact ih
    · exact maintains_pure _

/-- Where bytes are announced nothing is asked, and otherwise there is a wait.
Either way a fact that polls and reads keep is kept. -/
theorem maintains_replenish (h : ReadsKeep I) (attempts credit : Nat) :
    Maintains I (replenish attempts credit) := by
  unfold replenish
  split
  · exact maintains_await h.available attempts
  · exact maintains_pure _

/-- Reading bytes keeps what waits and single bytes keep. The induction is on the
bytes that are missing, with the credit and the bytes read before left open. -/
theorem maintains_readExactly (h : ReadsKeep I) (attempts missing credit : Nat) (done : Bytes) :
    Maintains I (readExactly attempts missing credit done) := by
  induction missing generalizing credit done with
  | zero => exact maintains_pure _
  | succ missing ih =>
    apply Maintains.bind (maintains_replenish h attempts credit)
    intro ready
    refine .bind (h.readByte.adaptExcept _) ?_
    intro b
    exact ih _ _

/-- So does reading a header, in order or not. The check of its number comes after
the bytes have been read. -/
theorem maintains_receiveHeader (h : ReadsKeep I) :
    Maintains (fun c => I c.transport) receiveHeader := by
  apply Maintains.bind maintains_get
  intro c
  apply Maintains.bind (maintains_onTransport (maintains_readExactly h _ _ _ _))
  intro head
  apply Maintains.bind (maintains_ensure _ _)
  intro _
  refine .bind (maintains_modify fun _ hc => hc) ?_
  intro _
  exact maintains_pure _

/-- Receiving keeps what reading keeps: there is a read for the header and one for
the payload, and what is done between and behind them is not the transport's. -/
theorem maintains_receive (h : ReadsKeep I) : Maintains (fun c => I c.transport) receive := by
  apply Maintains.bind (maintains_receiveHeader h)
  intro header
  apply Maintains.bind maintains_get
  intro c
  apply Maintains.bind (maintains_onTransport (maintains_readExactly h _ _ _ _))
  intro payload
  refine .bind (maintains_note _) ?_
  intro _
  exact maintains_pure _

/-- Sending keeps what a write keeps. A payload that is too long is refused before
the transport is asked. -/
theorem maintains_send
    (h : ∀ bs, Maintains I (Transport.write bs : EStateM IoError τ Unit)) (payload : Bytes) :
    Maintains (fun c => I c.transport) (send payload) := by
  apply Maintains.bind (maintains_ensure _ _)
  intro _
  apply Maintains.bind maintains_get
  intro c
  apply Maintains.bind (maintains_note _)
  intro _
  refine .bind (maintains_modify fun _ hc => hc) ?_
  intro _
  exact maintains_onTransport ((h _).adaptExcept _)

/-- What no exchange changes of a channel. The four operations are all that a
session asks of one, apart from opening and closing its transport. -/
structure Kept {β : Type} (view : Channel τ → β) : Prop where
  receive : ∀ b, Maintains (fun c => view c = b) receive
  send : ∀ payload b, Maintains (fun c => view c = b) (send payload)
  note : ∀ event b, Maintains (fun c => view c = b) (note event)
  resetSequence : ∀ b, Maintains (fun c => view c = b) resetSequence

/-- The poll budget is set when a channel is made, and never again. So it is one of
the things that every request leaves. -/
theorem kept_readAttempts : Kept (readAttempts (τ := τ)) where
  receive attempts := by
    -- First the header, then the payload: a read each, and what is entered after it.
    refine .bind (.bind maintains_get ?_) ?_
    · intro c
      apply Maintains.bind (maintains_readAttempts_onTransport attempts _)
      intro head
      apply Maintains.bind (maintains_ensure _ _)
      intro _
      refine .bind (maintains_modify fun _ h => h) ?_
      intro _
      exact maintains_pure _
    · intro header
      apply Maintains.bind maintains_get
      intro c
      apply Maintains.bind (maintains_readAttempts_onTransport attempts _)
      intro payload
      refine .bind (maintains_modify fun _ h => h) ?_
      intro _
      exact maintains_pure _
  send payload attempts := by
    apply Maintains.bind (maintains_ensure _ _)
    intro _
    apply Maintains.bind maintains_get
    intro c
    refine .bind (maintains_modify fun _ h => h) ?_
    intro _
    refine .bind (maintains_modify fun _ h => h) ?_
    intro _
    exact maintains_readAttempts_onTransport attempts _
  note _ _ := maintains_modify fun _ h => h
  resetSequence _ := maintains_modify fun _ h => h

/-- A packet that was sent has used up its number. Of failures nothing is said here,
since they differ. -/
theorem ends_send_sequence (payload : Bytes) (c : Channel τ) :
    Ends (send payload) c (fun _ c' => c'.sequence = c.sequence + 1) (fun _ _ => True) := by
  simp only [send, note, onTransport, ends_bind, ends_get, ends_ensure, ends_modify, ends_focus]
  split
  -- The number has been moved on before the transport is asked, so the write may do as it likes.
  · exact maintains_const True _ _ trivial
  · trivial

end SqlWire.Channel
