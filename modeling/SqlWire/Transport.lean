import SqlWire.Error

/-!
# Transports

A transport is a byte stream to a server that can be opened and closed. A session never looks behind
these six operations, so anything that has them can carry one. Each operation gives the transport as
it is afterwards, also when it fails.

`FiniteTransport` adds a bound on the bytes that can still be read. A server that closes, falls
silent or breaks in the middle has one; only a stream that never ends has none, and reading a result
to its end is not something to be asked of it.
-/

set_option autoImplicit false

namespace SqlWire

/-- A byte stream to a server. -/
class Transport (τ : Type) where
  /-- Opens a session with a host and port. -/
  connect : String → UInt16 → EStateM IoError τ Unit
  /-- Sends all the bytes. -/
  write : Bytes → EStateM IoError τ Unit
  /-- Takes the next byte; fails with `unexpectedEof` where the peer has closed the stream. -/
  readByte : EStateM IoError τ UInt8
  /-- Counts the bytes that can be taken without waiting. -/
  available : EStateM IoError τ Nat
  /-- Ends the session. -/
  close : τ → τ
  /-- Whether a session is open. -/
  isConnected : τ → Bool

/-- A transport on which only so many bytes can still be read. -/
class FiniteTransport (τ : Type) extends Transport τ where
  /-- No more than this many bytes can be read from here on. -/
  backlog : τ → Nat
  backlog_readByte : ∀ {t t' : τ} {b : UInt8}, readByte.run t = .ok b t' → backlog t' < backlog t
  backlog_available : ∀ {t t' : τ} {n : Nat}, available.run t = .ok n t' → backlog t' ≤ backlog t

/-- The failure of a transport that is used outside of a session. -/
def IoError.notConnected : IoError :=
  ⟨.notConnected, "transport is not connected"⟩

/-- The failure of reading where nothing is left to read. -/
def IoError.exhausted : IoError :=
  ⟨.unexpectedEof, "script exhausted"⟩

end SqlWire
