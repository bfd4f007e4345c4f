import SqlWire.Channel
import SqlWire.Config

/-!
# Sessions

A session carries out one exchange after another with a server over a packet channel: it logs in,
sends commands and reads what they are answered with. This module holds its state;
`Session.Connect`, `Session.Command`, `Session.Results` and `Session.Display` hold what it does.

A session goes from `disconnected` through `connecting`, `greeted` and `loginSent` to
`authenticated` or `rejected`. Commands need an authenticated one. After `execute` has announced a
result set the fields are to be read up to their end marker, and then the rows, before the next
command; nothing enforces that order.
-/

set_option autoImplicit false

namespace SqlWire

/-- How far a session has got. -/
inductive SessionState where
  | disconnected
  | connecting
  /-- The server's greeting has been read. -/
  | greeted
  /-- The server has not answered the login yet. -/
  | loginSent
  /-- Ready for commands. -/
  | authenticated
  /-- The server refused the credentials. -/
  | rejected
deriving DecidableEq, Repr

/-- The state as diagnostics show it. -/
def SessionState.name : SessionState → String
  | disconnected => "Disconnected"
  | connecting => "Connecting"
  | greeted => "HandshakeReceived"
  | loginSent => "AuthSent"
  | authenticated => "Authenticated"
  | rejected => "Rejected"

/-- A session with a server. -/
structure Session (τ : Type) where
  channel : Channel τ
  config : Config
  state : SessionState := .disconnected
  /-- Version that the server gave when the session was last opened. -/
  serverVersion : Option String := none
  /-- The server's number for the session that was last opened. -/
  connectionId : UInt32 := 0
  /-- Columns of the result set that was last announced. -/
  columnCount : Nat := 0
  affectedRows : UInt64 := 0
  lastInsertId : UInt64 := 0
  statusFlags : UInt16 := 0
  warnings : UInt16 := 0
deriving DecidableEq

/-- What a session does: it gives a value or fails, and leaves the session as it is afterwards. -/
abbrev SessionM (τ α : Type) := EStateM Error (Session τ) α

namespace Session

variable {τ : Type}

/-- A session over a transport. Nothing is sent before it is connected. -/
def ofTransport (transport : τ) (config : Config) : Session τ where
  channel := .ofTransport transport config.readAttempts
  config

/-- The session can be given commands. -/
def isReady (s : Session τ) : Bool :=
  s.state == .authenticated

/-- The session with its transport changed. -/
def mapTransport (f : τ → τ) (s : Session τ) : Session τ :=
  { s with channel := { s.channel with transport := f s.channel.transport } }

/-- The events since they were last taken, first one first. -/
def takeEvents (s : Session τ) : List Event × Session τ :=
  let (events, channel) := s.channel.takeEvents
  (events, { s with channel })

/-- Acts on the channel alone. -/
def onChannel {α : Type} (action : EStateM Error (Channel τ) α) : SessionM τ α :=
  Action.focus Session.channel (fun channel s => { s with channel }) action

/-- Acts on the transport alone. -/
def onTransport {α : Type} (action : EStateM Error τ α) : SessionM τ α :=
  onChannel (Channel.onTransport action)

/-- Enters an event in the journal. -/
def note (event : Event) : SessionM τ Unit :=
  onChannel (Channel.note event)

/-- Starts a new exchange. -/
def startExchange : SessionM τ Unit :=
  onChannel Channel.resetSequence

/-- Reads the next packet. -/
def receive [Transport τ] : SessionM τ Packet :=
  onChannel Channel.receive

/-- Sends a payload as one packet. -/
def send [Transport τ] (payload : Bytes) : SessionM τ Unit :=
  onChannel (Channel.send payload)

/-- The reply that a packet holds; a packet that holds none breaks the protocol. -/
def decode {α : Type} (reader : Reader α) (complaint : String) (packet : Packet) : SessionM τ α :=
  match reader.run? packet.payload with
  | some a => return a
  | none => throw (.breachIn complaint packet.payload)

/-- The OK reply that a packet holds. -/
def decodeOk (packet : Packet) : SessionM τ OkReply :=
  decode OkReply.read "Invalid OK packet" packet

/-- The ERR reply that a packet holds. -/
def decodeErr (packet : Packet) : SessionM τ ErrReply :=
  decode ErrReply.read "Invalid error packet" packet

/-- The end marker that a packet holds. -/
def decodeEof (packet : Packet) : SessionM τ EofReply :=
  decode EofReply.read "Invalid EOF packet" packet

/-- Keeps what the server confirmed. -/
def recordOk (reply : OkReply) : SessionM τ Unit :=
  modify fun s =>
    { s with
      affectedRows := reply.affectedRows
      lastInsertId := reply.lastInsertId
      statusFlags := reply.statusFlags
      warnings := reply.warnings }

/-- Keeps what an end marker says. -/
def recordEof (reply : EofReply) : SessionM τ Unit :=
  modify fun s => { s with warnings := reply.warnings, statusFlags := reply.statusFlags }

/-- Fails unless the session can be given commands. -/
def requireReady : SessionM τ Unit := do
  let s ← get
  Action.ensure (s.state = .authenticated)
    (.connectionTrouble .notConnected
      s!"Connection not ready for commands (state: {s.state.name})")

end Session

end SqlWire
