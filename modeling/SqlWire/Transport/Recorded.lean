import SqlWire.Transport

/-!
# A transport that keeps a record

Any transport can be wrapped so that each call to it is kept with what it came to.
The wrapped transport behaves as the one inside does.
-/

set_option autoImplicit false

namespace SqlWire

/-- A call to a transport and what it came to. -/
inductive TransportCall where
  | connect (host : String) (port : UInt16) (failure : Option IoError)
  | write (bs : Bytes) (failure : Option IoError)
  | readByte (result : Except IoError UInt8)
  | available (result : Except IoError Nat)
  | close

/-- A transport and the calls made to it, the latest first. -/
structure Recorded (τ : Type) where
  inner : τ
  calls : List TransportCall := []

namespace Recorded

variable {τ : Type}

/-- Makes a call to the transport inside and keeps it. -/
def recording {α : Type} (call : Except IoError α → TransportCall)
    (action : EStateM IoError τ α) : EStateM IoError (Recorded τ) α := fun t =>
  match action.run t.inner with
  | .ok a inner => .ok a { inner, calls := call (.ok a) :: t.calls }
  | .error e inner => .error e { inner, calls := call (.error e) :: t.calls }

/-- The action is carried out on the transport underneath, and one call is added to
the record, with what it came to. -/
@[simp] theorem run_recording {α : Type} (call : Except IoError α → TransportCall)
    (action : EStateM IoError τ α) (t : Recorded τ) :
    (recording call action).run t
      = match action.run t.inner with
        | .ok a inner => .ok a { inner, calls := call (.ok a) :: t.calls }
        | .error e inner => .error e { inner, calls := call (.error e) :: t.calls } := rfl

/-- The failure in an outcome. -/
def failure? {α : Type} : Except IoError α → Option IoError
  | .ok _ => none
  | .error e => some e

/-- Every call is passed on and recorded. Asking whether the transport is connected
is no call. -/
instance [Transport τ] : Transport (Recorded τ) where
  connect host port :=
    recording (fun r => .connect host port (failure? r)) (Transport.connect host port)
  write bs := recording (fun r => .write bs (failure? r)) (Transport.write bs)
  readByte := recording .readByte Transport.readByte
  available := recording .available Transport.available
  close t := { inner := Transport.close t.inner, calls := .close :: t.calls }
  isConnected t := Transport.isConnected t.inner

/-- A record does not change what there is to be delivered. -/
instance [FiniteTransport τ] : FiniteTransport (Recorded τ) where
  backlog t := FiniteTransport.backlog t.inner
  backlog_readByte {t t' b} h := by
    simp only [Transport.readByte, run_recording] at h
    split at h
    · next heq => cases h; exact FiniteTransport.backlog_readByte heq
    · cases h
  backlog_available {t t' n} h := by
    simp only [Transport.available, run_recording] at h
    split at h
    · next heq => cases h; exact FiniteTransport.backlog_available heq
    · cases h

/-- The buffers handed to the transport, first one first, delivered or not. -/
def buffers (t : Recorded τ) : List Bytes :=
  t.calls.reverse.filterMap fun
    | .write bs _ => some bs
    | _ => none

end Recorded

end SqlWire
