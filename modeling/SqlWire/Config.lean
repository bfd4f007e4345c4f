import SqlWire.Error
import SqlWire.Flags
import SqlWire.Packet

/-!
# Configuration

Everything a session needs is given by its caller: where the server is, who logs in, and the fixed
budgets for connecting and for waiting on a slow network. `Config.violation?` finds the first reason
why a configuration cannot work.
-/

set_option autoImplicit false

namespace SqlWire

/-- What a session is configured with. -/
structure Config where
  /-- Name or address of the server. -/
  host : String := "localhost"
  port : UInt16 := 3306
  user : String := ""
  password : Option String := none
  /-- Database selected at login. -/
  database : Option String := none
  /-- Character set announced at login. -/
  charset : UInt8 := Charset.standard
  /-- Capabilities announced at login. -/
  clientFlags : UInt32 := Capability.standard
  /-- Packet size announced at login. -/
  maxPacketSize : UInt32 := 16777216
  /-- How often the transport is asked to connect before giving up. -/
  connectAttempts : UInt32 := 3
  /-- Milliseconds between two attempts. -/
  connectRetryDelay : UInt64 := 1000
  /-- How often the transport is asked for data before a read times out. -/
  readAttempts : UInt32 := 10
  /-- Milliseconds between two such polls. -/
  readPollInterval : UInt64 := 500
  /-- Length of the longest query that is sent, in bytes. The command byte shares the packet with
  the query, and a payload of `maxPayload` bytes would announce a continuation. -/
  maxQuerySize : UInt64 := 16777213
deriving DecidableEq, Repr

namespace Config

/-- Length of the longest query that fits one packet. -/
def queryLimit : Nat := maxPayload - 2

/-- Why a configuration cannot work. -/
inductive Violation where
  | noHost
  | noUser
  | noConnectAttempt
  | noReadAttempt
  /-- No query fits the limit, or the limit admits queries that fit no packet. -/
  | querySize
  /-- The 4.1 protocol, which all replies are read by, is not asked for. -/
  | oldProtocol
deriving DecidableEq, Repr

/-- The reason in words. -/
def Violation.message : Violation → String
  | noHost => "host must not be empty"
  | noUser => "user must not be empty"
  | noConnectAttempt => "connect_attempts must be at least 1"
  | noReadAttempt => "read_attempts must be at least 1"
  | querySize => s!"max_query_size must be between 1 and {queryLimit}"
  | oldProtocol => "client_flags must include CLIENT_PROTOCOL_41"

/-- The first reason why the configuration cannot work, if there is one. -/
def violation? (c : Config) : Option Violation :=
  if c.host.isEmpty then some .noHost
  else if c.user.isEmpty then some .noUser
  else if c.connectAttempts = 0 then some .noConnectAttempt
  else if c.readAttempts = 0 then some .noReadAttempt
  else if c.maxQuerySize = 0 ∨ queryLimit < c.maxQuerySize.toNat then some .querySize
  else if c.clientFlags &&& Capability.protocol41 = 0 then some .oldProtocol
  else none

/-- Succeeds for a configuration that can work. -/
def validate (c : Config) : Except Error Unit :=
  match c.violation? with
  | none => .ok ()
  | some violation => .error (.config violation.message)

/-- A query of this length is not sent. -/
def exceedsLimit (c : Config) (length : Nat) : Bool :=
  c.maxQuerySize.toNat < length || maxPayload ≤ length + 1

/-- Host and port as one text. -/
def address (c : Config) : String :=
  s!"{c.host}:{c.port}"

/-- A database is to be selected at login. -/
def selectsDatabase (c : Config) : Bool :=
  c.database.any fun name => !name.isEmpty

/-- The capabilities announced at login: those configured, and the selection of a database where
there is one to select. -/
def loginFlags (c : Config) : UInt32 :=
  if c.selectsDatabase then c.clientFlags ||| Capability.connectWithDatabase else c.clientFlags

end Config

end SqlWire
