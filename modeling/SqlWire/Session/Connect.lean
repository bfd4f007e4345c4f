import SqlWire.Login
import SqlWire.Greeting
import SqlWire.Session

/-!
# Opening a session

Connecting asks the transport for a connection, several times if need be, and then logs in once. It
succeeds whole or not at all: whatever fails on the way, the transport is closed again, and what was
known from an earlier session stays known.
-/

set_option autoImplicit false

namespace SqlWire.Session

variable {τ : Type} [Transport τ]

/-- The error of a transport that could not be connected. -/
def unreachable (config : Config) (attempts : Nat) (last : Option IoError) : Error :=
  .connection {
    kind := .connect
    message := s!"Could not connect to {config.address} after {attempts} attempts"
    code := none
    sqlState := none
    source := last }

/-- Asks the transport for a connection, for `remaining` more times after `made` attempts of which
`last` is the latest failure. -/
def openTransport : (remaining : Nat) → (made : Nat) → (last : Option IoError) → SessionM τ Unit
  | 0, made, last => do
    throw (unreachable (← get).config made last)
  | remaining + 1, made, _ => do
    let config := (← get).config
    note (.connecting config.host config.port (made + 1))
    match ← onTransport (Action.outcome (Transport.connect config.host config.port)) with
    | .ok () => return
    | .error e =>
      note (.connectFailed (made + 1) config.connectAttempts.toNat e)
      openTransport remaining (made + 1) (some e)

/-- The error of a refused login. -/
def loginRefusal (reply : ErrReply) : Error :=
  .connection {
    kind := .authentication
    message := s!"Authentication failed: {reply.message}"
    code := some reply.code
    sqlState := reply.sqlState?
    source := none }

/-- Reads the greeting, which counts as the first packet of the login's exchange. -/
def readGreeting : SessionM τ Greeting := do
  startExchange
  match Greeting.parse (← receive).payload with
  | .ok greeting =>
    modify fun s => { s with state := .greeted }
    note (.greeted greeting.serverVersion greeting.threadId greeting.capabilities)
    return greeting
  | .error defect => throw defect.toError

/-- Sends the login that answers a greeting. -/
def sendLogin (greeting : Greeting) : SessionM τ Unit := do
  let config := (← get).config
  send (Login.ofConfig config greeting.seed).encode
  modify fun s => { s with state := .loginSent }
  note (.loginSent config.user Scramble.pluginName)

/-- Reads the server's answer to the login. -/
def readVerdict (greeting : Greeting) : SessionM τ Unit := do
  let packet ← receive
  match packet.kind with
  | .ok =>
    recordOk (← decodeOk packet)
    modify fun s =>
      { s with
        state := .authenticated
        connectionId := greeting.threadId
        serverVersion := some greeting.serverVersion }
    note (.connected greeting.serverVersion greeting.threadId (← get).config.user)
  | .error =>
    let reply ← decodeErr packet
    modify fun s => { s with state := .rejected }
    note (.rejected reply)
    throw (loginRefusal reply)
  | .eof | .data => throw (.breachIn "Unexpected packet in reply to login" packet.payload)

/-- Logs in over a connected transport. -/
def login : SessionM τ Unit := do
  let greeting ← readGreeting
  sendLogin greeting
  readVerdict greeting

/-- Closes the transport after a failed attempt to open the session. Only a refusal of the
credentials is remembered as such. -/
def abandon (s : Session τ) : Session τ :=
  { s.mapTransport Transport.close with
    state := if s.state = .rejected then .rejected else .disconnected }

/-- Opens the session. -/
def connect : SessionM τ Unit := do
  let s ← get
  Action.ensure (Transport.isConnected s.channel.transport = false)
    (.connectionTrouble .connect "Already connected; close the connection first")
  Action.ofExcept s.config.validate
  modify fun s => { s with state := .connecting }
  tryCatch
    (do
      openTransport s.config.connectAttempts.toNat 0 none
      login)
    fun e => do
      modify abandon
      throw e

end SqlWire.Session
