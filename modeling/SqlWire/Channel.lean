import SqlWire.Action
import SqlWire.Event
import SqlWire.Packet
import SqlWire.Transport

/-!
# Packet channels

A channel sends and receives packets over a transport. It numbers the packets of an exchange, one
count for both directions, and refuses a packet with another number than the next.

A read polls the transport until bytes are there, takes what it still needs of them, and polls again
for the rest. Each wait may see `readAttempts` empty answers before the read gives up; a byte that
arrives starts the next wait afresh. A read that fails has consumed the bytes that it took.

Every packet received, and every packet handed to the transport, is entered in the journal.
-/

set_option autoImplicit false

namespace SqlWire

/-- A packet channel over a transport. -/
structure Channel (τ : Type) where
  transport : τ
  /-- Number of the next packet in either direction. -/
  sequence : UInt8 := 0
  /-- Empty polls after which a wait gives up; one at least, in a channel made by
  `Channel.ofTransport`. -/
  readAttempts : Nat
  /-- What happened, the latest first. -/
  journal : List Event := []
deriving DecidableEq

namespace Channel

variable {τ : Type}

/-- A new channel. A wait polls once even if told not to poll at all. -/
def ofTransport (transport : τ) (readAttempts : UInt32) : Channel τ where
  transport
  readAttempts := max readAttempts.toNat 1

/-- The events since the journal was last taken, first one first. -/
def takeEvents (c : Channel τ) : List Event × Channel τ :=
  (c.journal.reverse, { c with journal := [] })

/-- Acts on the transport alone. -/
def onTransport {α : Type} (action : EStateM Error τ α) : EStateM Error (Channel τ) α :=
  Action.focus Channel.transport (fun transport c => { c with transport }) action

/-- The channel with an event entered in its journal. -/
def noted (event : Event) (c : Channel τ) : Channel τ :=
  { c with journal := event :: c.journal }

/-- Enters an event in the journal. -/
def note (event : Event) : EStateM Error (Channel τ) Unit :=
  modify (noted event)

/-- Starts a new exchange. -/
def resetSequence : EStateM Error (Channel τ) Unit :=
  modify fun c => { c with sequence := 0 }

variable [Transport τ]

/-- Asks the transport how many bytes can be taken. -/
def poll : EStateM Error τ Nat :=
  Transport.available.adaptExcept (.disconnected "Failed to poll transport")

/-- A stream that ends inside a packet breaks the protocol; any other failure is the transport's. -/
def readFailure (e : IoError) : Error :=
  if e.kind = .unexpectedEof then
    .protocol ⟨"Short read: stream ended inside a packet", none, some e⟩
  else .disconnected "Failed to read packet" e

/-- Takes the next byte of a packet. -/
def takeByte : EStateM Error τ UInt8 :=
  Transport.readByte.adaptExcept readFailure

/-- Polls, at most `attempts` times, until the transport has bytes; gives their count. -/
def await : (attempts : Nat) → EStateM Error τ Nat
  | 0 => throw .timeout
  | attempts + 1 => do
    let ready ← poll
    if ready = 0 then await attempts else return ready

/-- Bytes that can be read without waiting: the credit, and only where that is used up, what a new
wait gives. -/
def replenish (attempts credit : Nat) : EStateM Error τ Nat :=
  if credit = 0 then await attempts else pure credit

/-- Reads `missing` bytes. As long as `credit` is not used up, that many bytes have been announced
and are read without another poll; `done` holds the bytes read before, last one first. -/
def readExactly (attempts : Nat) :
    (missing credit : Nat) → (done : Bytes) → EStateM Error τ Bytes
  | 0, _, done => return done.reverse
  | missing + 1, credit, done => do
    let ready ← replenish attempts credit
    let b ← takeByte
    readExactly attempts missing (ready - 1) (b :: done)

/-- Reads the header of the next packet and moves the number on. -/
def receiveHeader : EStateM Error (Channel τ) Header := do
  let c ← get
  let head ← onTransport (readExactly c.readAttempts Header.size 0 [])
  let header := Header.ofBytes head
  -- The payload of a refused header is not read, and neither does the number move on.
  Action.ensure (header.sequence = c.sequence)
    (.breachIn s!"Packet out of order: expected sequence {c.sequence}, got {header.sequence}" head)
  modify fun c => { c with sequence := header.sequence + 1 }
  return header

/-- Reads the next packet. A packet whose payload is cut short has used up its number. -/
def receive : EStateM Error (Channel τ) Packet := do
  let header ← receiveHeader
  let payload ← onTransport (readExactly (← get).readAttempts header.length 0 [])
  note (.received header.sequence payload)
  return { sequence := header.sequence, payload }

/-- Sends a payload as one packet with the next number. A payload that would need a continuation is
refused, and nothing is sent; any other moves the number on, delivered or not. -/
def send (payload : Bytes) : EStateM Error (Channel τ) Unit := do
  Action.ensure (payload.length < maxPayload)
    (.breach s!"Payload of {payload.length} bytes does not fit one packet")
  let packet : Packet := { sequence := (← get).sequence, payload }
  -- Noted before the transport answers, so that a packet that is lost has its event too.
  note (.sent packet.sequence payload)
  modify fun c => { c with sequence := packet.sequence + 1 }
  onTransport ((Transport.write packet.frame).adaptExcept (.disconnected "Failed to write packet"))

end Channel

end SqlWire
