import SqlWire.Channel
import SqlWire.Proofs.Ends

/-!
# How a channel fails

Whatever goes wrong in receiving or sending a packet, the error is one of the
connection: the stream may be left in the middle of a packet. It is never a refusal
of the credentials, which only a packet that was received whole can express.
-/

set_option autoImplicit false

namespace SqlWire

open SqlWire.Action

/-- An error that a channel may report: the session is not to be used again, and the
server has refused nothing. -/
structure Error.IsChannelFailure (e : Error) : Prop where
  connection : e.isConnectionError = true
  notRefused : e.isAuthFailure = false

namespace Channel

variable {τ : Type} [Transport τ]

/-- A wait runs out of polls, or is told of one that failed. Both are failures of
the connection. -/
theorem failsOnly_await (attempts : Nat) :
    FailsOnly Error.IsChannelFailure (await attempts : EStateM Error τ Nat) := by
  induction attempts with
  | zero => exact failsOnly_throw ⟨rfl, rfl⟩
  | succ attempts ih =>
    refine .bind (failsOnly_adaptExcept (fun _ => ⟨rfl, rfl⟩) _) ?_
    intro ready
    split
    · exact ih
    · exact failsOnly_pure _

/-- A byte that cannot be read breaks the protocol or the connection, depending on
whether the stream has ended. -/
theorem isChannelFailure_readFailure (e : IoError) : (readFailure e).IsChannelFailure := by
  unfold readFailure
  split <;> exact ⟨rfl, rfl⟩

/-- Reading fails with a wait or with a byte. The induction is on the bytes that are
missing. -/
theorem failsOnly_readExactly (attempts missing credit : Nat) (done : Bytes) :
    FailsOnly Error.IsChannelFailure
      (readExactly attempts missing credit done : EStateM Error τ Bytes) := by
  induction missing generalizing credit done with
  | zero => exact failsOnly_pure _
  | succ missing ih =>
    -- Of the two steps of a round, waiting can only run out of polls or be told of a failed one.
    have hready : FailsOnly Error.IsChannelFailure
        (replenish attempts credit : EStateM Error τ Nat) := by
      unfold replenish
      split
      · exact failsOnly_await attempts
      · exact failsOnly_pure _
    apply FailsOnly.bind hready
    intro ready
    refine .bind (failsOnly_adaptExcept isChannelFailure_readFailure _) ?_
    intro b
    exact ih _ _

/-- Receiving fails in no other way. A refusal by the server is no failure of this
kind: it is a packet that was received. -/
theorem failsOnly_receive :
    FailsOnly Error.IsChannelFailure (receive : EStateM Error (Channel τ) Packet) := by
  -- The header may have the wrong number, which is a breach; the payload may not come.
  refine .bind (.bind failsOnly_get ?_) ?_
  · intro c
    apply FailsOnly.bind (.focus (failsOnly_readExactly _ _ _ _))
    intro head
    apply FailsOnly.bind (failsOnly_ensure _ ⟨rfl, rfl⟩)
    intro _
    refine .bind (failsOnly_modify _) ?_
    intro _
    exact failsOnly_pure _
  · intro header
    apply FailsOnly.bind failsOnly_get
    intro c
    apply FailsOnly.bind (.focus (failsOnly_readExactly _ _ _ _))
    intro payload
    refine .bind (failsOnly_modify _) ?_
    intro _
    exact failsOnly_pure _

/-- Neither does sending. What is too long for a packet breaks the protocol from
this side. -/
theorem failsOnly_send (payload : Bytes) :
    FailsOnly Error.IsChannelFailure (send payload : EStateM Error (Channel τ) Unit) := by
  apply FailsOnly.bind (failsOnly_ensure _ ⟨rfl, rfl⟩)
  intro _
  apply FailsOnly.bind failsOnly_get
  intro c
  apply FailsOnly.bind (failsOnly_modify _)
  intro _
  apply FailsOnly.bind (failsOnly_modify _)
  intro _
  exact .focus (failsOnly_adaptExcept (fun _ => ⟨rfl, rfl⟩) _)

end Channel

end SqlWire
