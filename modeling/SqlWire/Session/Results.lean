import SqlWire.ResultSet
import SqlWire.Row
import SqlWire.Session.Command

/-!
# Reading results

Behind the header of a result set come the fields, an end marker, the rows and another end marker.
`nextField` and `nextRow` read one packet each; `query` reads them all.
-/

set_option autoImplicit false

namespace SqlWire

/-- The values that a step gives until it gives none. `fuel` is one more than the number of values
that can still come, so that running out of it does not happen; `done` holds the values before, last
one first. -/
def collect {σ α : Type} (step : EStateM Error σ (Option α)) :
    (fuel : Nat) → (done : List α) → EStateM Error σ (List α)
  | 0, _ => throw .timeout
  | fuel + 1, done => do
    match ← step with
    | none => return done.reverse
    | some a => collect step fuel (a :: done)

namespace Session

variable {τ : Type}

section

variable [Transport τ]

/-- Reads the next field descriptor, none at the end marker. -/
def nextField : SessionM τ (Option Field) := do
  let packet ← receive
  match packet.kind with
  | .eof =>
    recordEof (← decodeEof packet)
    return none
  | .error => throw (refusal (← decodeErr packet) none)
  | .ok | .data =>
    match Field.parse? packet.payload with
    | some field => return some field
    | none => throw (.breachIn "Malformed field packet" packet.payload)

/-- Reads the next row, none at the end marker. A row may begin as an OK reply does, for its first
column may be an empty string. -/
def nextRow : SessionM τ (Option Row) := do
  let packet ← receive
  match packet.kind with
  | .eof =>
    recordEof (← decodeEof packet)
    return none
  | .error => throw (refusal (← decodeErr packet) none)
  | .ok | .data => return some (.ofPayload packet.payload (← get).columnCount)

/-- Reads the cells of the next row, none at the end marker. -/
def nextCells : SessionM τ (Option (List (Option String))) := do
  match ← nextRow with
  | none => return none
  | some row =>
    match Row.values.run row with
    | .ok cells _ => return some cells
    | .error e _ => throw e

end

variable [FiniteTransport τ]

/-- One more than the packets that can still be read, at the most. -/
def packetBound (s : Session τ) : Nat :=
  FiniteTransport.backlog s.channel.transport + 1

/-- Reads the field descriptors up to their end marker. -/
def readFields : SessionM τ (List Field) := do
  collect nextField (← get).packetBound []

/-- Reads the cells of the rows up to their end marker. -/
def readRows : SessionM τ (List (List (Option String))) := do
  collect nextCells (← get).packetBound []

/-- Runs a query and reads its whole result. -/
def query (sql : String) : SessionM τ QueryResult := do
  match ← execute (Utf8.encode sql) with
  | .done reply => return .done reply
  | .resultSet columnCount =>
    let fields ← readFields
    -- The header and the fields must agree before a row is read by either.
    Action.ensure (fields.length = columnCount)
      (.breach s!"Result set announced {columnCount} columns but sent {fields.length} fields")
    return .rows { fields, rows := ← readRows }

end Session

end SqlWire
