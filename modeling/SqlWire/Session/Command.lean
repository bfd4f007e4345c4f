import SqlWire.Session

/-!
# Commands

A command is one packet of the client, the first of its exchange, and the server's reply to it.
-/

set_option autoImplicit false

namespace SqlWire

/-- What the first packet of the reply to a query says. -/
inductive QueryOutcome where
  /-- A result set of so many columns follows. -/
  | resultSet (columnCount : Nat)
  /-- The statement has completed. -/
  | done (reply : OkReply)
deriving DecidableEq, Repr

namespace Session

variable {τ : Type}

/-- The kind of a query error, by the server's error number. -/
def refusalKind (reply : ErrReply) : QueryErrorKind :=
  if reply.isDuplicateKey || reply.isForeignKeyViolation then .constraint
  else
    match reply.code.toNat with
    | 1064 => .grammar
    | 1146 | 1054 | 1049 => .notFound
    | 1044 | 1045 | 1142 => .permission
    | 1213 | 1205 => .deadlock
    | _ => .database

/-- The error of a refused command, with the query where there was one. -/
def refusal (reply : ErrReply) (sql : Option Bytes) : Error :=
  .query {
    kind := refusalKind reply
    code := some reply.code
    sqlState := reply.sqlState?
    message := reply.message
    sql := sql.map Utf8.decode }

/-- The error of a query that is too long to be sent. -/
def tooLarge (length limit : Nat) : Error :=
  .query {
    kind := .tooLarge
    code := none
    sqlState := none
    message :=
      s!"Query of {length} bytes exceeds the limit of {min limit Config.queryLimit} bytes"
    sql := none }

/-- The column count that the header of a result set announces; there are no result sets without
columns. -/
def announcedColumns (payload : Bytes) : Option Nat :=
  match Reader.codedInt.run? payload with
  | some n => if n = 0 then none else some n.toNat
  | none => none

variable [Transport τ]

/-- Sends a query and reads the first packet of the reply. -/
def execute (sql : Bytes) : SessionM τ QueryOutcome := do
  requireReady
  let config := (← get).config
  Action.ensure (config.exceedsLimit sql.length = false)
    (tooLarge sql.length config.maxQuerySize.toNat)
  startExchange
  send (Command.query.payload sql)
  let packet ← receive
  match packet.kind with
  | .ok =>
    let reply ← decodeOk packet
    recordOk reply
    modify fun s => { s with columnCount := 0 }
    return .done reply
  | .error =>
    let reply ← decodeErr packet
    note (.queryFailed reply)
    throw (refusal reply (some sql))
  | .eof | .data =>
    match announcedColumns packet.payload with
    | some columnCount =>
      modify fun s => { s with columnCount }
      note (.resultSet columnCount)
      return .resultSet columnCount
    | none => throw (.breachIn "Invalid result set header" packet.payload)

/-- Asks whether the server is alive. Of the confirmation only the status is kept. -/
def ping : SessionM τ Unit := do
  requireReady
  startExchange
  send (Command.ping.payload [])
  let packet ← receive
  match packet.kind with
  | .ok =>
    let reply ← decodeOk packet
    modify fun s => { s with statusFlags := reply.statusFlags }
  | .error => throw (refusal (← decodeErr packet) none)
  | .eof | .data => throw (.breachIn "Unexpected packet in reply to ping" packet.payload)

/-- Tells the server that the session ends; a message that cannot be delivered is noted only. -/
def sayGoodbye : SessionM τ Unit := do
  let farewell : SessionM τ Unit := do
    startExchange
    send (Command.quit.payload [])
  match ← Action.outcome farewell with
  | .ok () => return
  | .error e => note (.quitUndelivered e)

/-- Takes leave of the server, if it has let the client in. -/
def leave : SessionM τ Unit := do
  if (← get).state = .authenticated then sayGoodbye else return

/-- Ends the session and closes the transport. The session can be connected again. -/
def close : SessionM τ Unit := do
  leave
  modify fun s =>
    { s.mapTransport Transport.close with state := .disconnected, columnCount := 0 }
  note .closed

end Session

end SqlWire
