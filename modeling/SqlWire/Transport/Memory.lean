import SqlWire.Action
import SqlWire.Packet
import SqlWire.Transport

/-!
# A transport in memory

The bytes that the server will have sent are put in beforehand, and the bytes that
the client writes are kept. Closing keeps both. The first few attempts to connect
can be made to fail.
-/

set_option autoImplicit false

namespace SqlWire

/-- A transport whose traffic is held in memory. -/
structure MemoryTransport where
  connected : Bool := false
  /-- Attempts to connect that will still be refused. The count is taken to fit the 32 bits of its
  counter, which is only ever counted down and never below zero: it does not wrap. -/
  refusals : Nat := 0
  /-- Attempts to connect so far. The counter has 32 bits and is taken not to wrap, that is,
  fewer than `2 ^ 32` attempts are made on one transport. -/
  attempts : Nat := 0
  /-- Bytes to be read. -/
  incoming : Bytes := []
  /-- Bytes written so far. -/
  written : Bytes := []
deriving DecidableEq, Repr

namespace MemoryTransport

/-- Puts bytes behind those to be read. -/
def push (t : MemoryTransport) (bs : Bytes) : MemoryTransport :=
  { t with incoming := t.incoming ++ bs }

/-- Puts a packet behind the bytes to be read. -/
def pushPacket (t : MemoryTransport) (p : Packet) : MemoryTransport :=
  t.push p.frame

/-- The written bytes, cut into packets. -/
def writtenPackets (t : MemoryTransport) : List Packet :=
  Packet.unframe t.written

/-- Forgets the written bytes. -/
def clearWritten (t : MemoryTransport) : MemoryTransport :=
  { t with written := [] }

/-- Counts an attempt; refuses it while refusals are left. -/
def connect : EStateM IoError MemoryTransport Unit := do
  let t ← get
  if t.refusals = 0 then set { t with attempts := t.attempts + 1, connected := true }
  else
    set { t with attempts := t.attempts + 1, refusals := t.refusals - 1 }
    throw ⟨.connectionRefused, "connection refused"⟩

/-- Keeps the bytes, within a session only. -/
def write (bs : Bytes) : EStateM IoError MemoryTransport Unit := do
  let t ← get
  Action.ensure (t.connected = true) .notConnected
  set { t with written := t.written ++ bs }

/-- The next byte put in. -/
def readByte : EStateM IoError MemoryTransport UInt8 := do
  let t ← get
  match t.incoming with
  | b :: rest =>
    set { t with incoming := rest }
    return b
  | [] => throw .exhausted

/-- All bytes put in can be read at once. -/
def available : EStateM IoError MemoryTransport Nat :=
  return (← get).incoming.length

/-- Memory delivers the bytes that it was given, and these are finitely many. -/
instance : FiniteTransport MemoryTransport where
  connect _ _ := connect
  write := write
  readByte := readByte
  available := available
  close t := { t with connected := false }
  isConnected := connected
  backlog t := t.incoming.length
  backlog_readByte {t t' b} h := by
    simp only [readByte, EStateM.run_bind, EStateM.run_get] at h
    split at h
    · next heq => cases h; simp [heq]
    · cases h
  backlog_available {t t' n} h := by
    cases h
    exact Nat.le_refl _

/-- Within a session, written bytes are kept behind those before. -/
theorem run_write {t : MemoryTransport} (h : t.connected = true) (bs : Bytes) :
    (Transport.write bs).run t = .ok () { t with written := t.written ++ bs } := by
  show (write bs).run t = _
  simp [write, h]

end MemoryTransport

end SqlWire
