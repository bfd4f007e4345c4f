import SqlWire.Transport

/-!
# A socket that was never opened

Before its first connection a socket has nothing to read, takes nothing to write, and can be closed
as often as one likes.
-/

set_option autoImplicit false

namespace SqlWire

/-- A socket without a connection. It has no state to speak of. -/
structure IdleSocket where
deriving DecidableEq, Repr

/-- Without a network below it no attempt to connect succeeds. -/
instance : FiniteTransport IdleSocket where
  connect _ _ := throw .notConnected
  write _ := throw .notConnected
  readByte := throw .notConnected
  available := return 0
  close t := t
  isConnected _ := false
  backlog _ := 0
  backlog_readByte h := by cases h
  backlog_available h := by cases h; exact Nat.le_refl _

end SqlWire
