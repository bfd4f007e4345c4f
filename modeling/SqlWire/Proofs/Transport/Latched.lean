import SqlWire.Proofs.Channel.Frame
import SqlWire.Transport.Memory
import SqlWire.Transport.Scripted

/-!
# Transports that stay connected until closed

A latched transport is connected from a successful attempt to connect until it is
closed. A failed attempt, a write, a read and a poll leave it as it is, whatever
they come to. The transport in memory and the scripted one are of this kind; a
socket whose peer can end the session is not.
-/

set_option autoImplicit false

namespace SqlWire

open SqlWire.Action

/-- Connecting with success and closing are all that changes whether the transport
is connected. The other operations keep the answer, whatever they come to; a failed
attempt keeps it as well. -/
class LatchedTransport (τ : Type) [Transport τ] : Prop where
  connect : ∀ (host : String) (port : UInt16) (t : τ),
    Ends (Transport.connect host port) t (fun _ t' => Transport.isConnected t' = true)
      (fun _ t' => Transport.isConnected t' = Transport.isConnected t)
  write : ∀ (bs : Bytes) (b : Bool),
    Maintains (fun t : τ => Transport.isConnected t = b) (Transport.write bs)
  readByte : ∀ b : Bool,
    Maintains (fun t : τ => Transport.isConnected t = b) Transport.readByte
  available : ∀ b : Bool,
    Maintains (fun t : τ => Transport.isConnected t = b) Transport.available
  close : ∀ t : τ, Transport.isConnected (Transport.close t) = false

namespace LatchedTransport

variable {τ : Type} [Transport τ] [LatchedTransport τ]

/-- Reading keeps the answer, so it is kept by any read of a packet. -/
theorem readsKeep (b : Bool) : Channel.ReadsKeep (fun t : τ => Transport.isConnected t = b) :=
  ⟨readByte b, available b⟩

/-- No exchange over the transport changes whether it is connected. So of the
operations of a session only those that connect or close can. -/
theorem kept_isConnected : Channel.Kept fun c : Channel τ => Transport.isConnected c.transport where
  receive b := Channel.maintains_receive (readsKeep b)
  send payload b := by
    refine Channel.maintains_send (I := fun t => Transport.isConnected t = b) ?_ payload
    intro bs
    exact write bs b
  note _ _ := maintains_modify fun _ h => h
  resetSequence _ := maintains_modify fun _ h => h

end LatchedTransport

/-- The transport in memory is latched: only `connect` and `close` touch its
connection. -/
instance : LatchedTransport MemoryTransport where
  connect host port t := by
    show Ends MemoryTransport.connect t _ _
    simp only [MemoryTransport.connect, ends_bind, ends_get]
    split
    -- An attempt that is not refused connects; one that is refused only counts.
    case isTrue hnone => rfl
    case isFalse hrefused => rfl
  write bs b t ht := by
    show Ends (MemoryTransport.write bs) t _ _
    simp only [MemoryTransport.write, ends_bind, ends_get, ends_ensure]
    split <;> exact ht
  readByte b t ht := by
    show Ends MemoryTransport.readByte t _ _
    simp only [MemoryTransport.readByte, ends_bind, ends_get]
    split <;> exact ht
  available b := .map maintains_get _
  close t := rfl

namespace ScriptedTransport

/-- Following a plan does nothing to the transport. It succeeds or fails as the plan
says, and the state has been changed before it by whoever follows the plan. -/
theorem maintains_follow (I : ScriptedTransport → Prop) (outcome : Option IoError) :
    Maintains I (follow outcome) := by
  cases outcome with
  | none => exact maintains_pure _
  | some e => exact maintains_throw _

/-- The scripted transport is latched: what the script says concerns reading alone,
and a plan decides only whether an attempt or a write fails. -/
instance : LatchedTransport ScriptedTransport where
  connect host port t := by
    show Ends (ScriptedTransport.connect host port) t _ _
    simp only [ScriptedTransport.connect, ends_bind, ends_get, ends_modify]
    -- The outcome that the plan has for this attempt decides whether it connects.
    refine Ends.mono (maintains_follow (fun t' => t'.connected = t.connected) _ _ rfl) ?_ ?_
    · intro _ t' _
      rfl
    · intro e t' h
      exact h
  write bs b t ht := by
    show Ends (ScriptedTransport.write bs) t _ _
    simp only [ScriptedTransport.write, ends_bind, ends_get, ends_modify]
    exact maintains_follow (fun t' => t'.connected = b) _ _ ht
  readByte b t ht := by
    show Ends ScriptedTransport.readByte t _ _
    simp only [ScriptedTransport.readByte, ends_bind, ends_get]
    split <;> exact ht
  available b t ht := by
    show Ends ScriptedTransport.available t _ _
    simp only [ScriptedTransport.available, ends_bind, ends_get, ends_modify]
    split <;> exact ht
  close t := rfl

end ScriptedTransport

end SqlWire
