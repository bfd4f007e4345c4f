import SqlWire.Error
import SqlWire.Reply

/-!
# Events

What a session does is recorded as a list of events, the traffic packet by packet
among them. An `Event` holds the values themselves; `Event.level`, `Event.message`
and `Event.details` are what a reader of the journal sees of it.
-/

set_option autoImplicit false

namespace SqlWire

/-- Importance of an event, least first. -/
inductive Level where
  | trace
  | debug
  | info
  | warn
deriving DecidableEq, Repr

/-- Something that happened in a session. -/
inductive Event where
  /-- A packet has been read whole. -/
  | received (sequence : UInt8) (payload : Bytes)
  /-- A packet is handed to the transport. -/
  | sent (sequence : UInt8) (payload : Bytes)
  /-- The transport is asked to connect. -/
  | connecting (host : String) (port : UInt16) (attempt : Nat)
  | connectFailed (attempt : Nat) (attempts : Nat) (error : IoError)
  | greeted (serverVersion : String) (threadId : UInt32) (capabilities : UInt32)
  | loginSent (user : String) (plugin : String)
  | connected (serverVersion : String) (threadId : UInt32) (user : String)
  /-- The server refused the credentials. -/
  | rejected (reply : ErrReply)
  /-- The server refused a statement. -/
  | queryFailed (reply : ErrReply)
  /-- A result set of so many columns follows. -/
  | resultSet (columnCount : Nat)
  /-- The server could not be told that the session ends. -/
  | quitUndelivered (error : Error)
  | closed
deriving DecidableEq, Repr

namespace Event

/-- A value that comes with an event. -/
inductive Detail where
  | number (n : Nat)
  | text (s : String)
deriving DecidableEq, Repr

/-- The importance of an event. -/
def level : Event → Level
  | received .. | sent .. => .trace
  | connecting .. | greeted .. | loginSent .. | resultSet .. | quitUndelivered .. | closed => .debug
  | connected .. => .info
  | connectFailed .. | rejected .. | queryFailed .. => .warn

/-- What happened, in words. -/
def message : Event → String
  | received .. => "<- packet"
  | sent .. => "-> packet"
  | connecting .. => "Connecting to MySQL"
  | connectFailed .. => "Connect attempt failed"
  | greeted .. => "Server greeting"
  | loginSent .. => "Login sent"
  | connected .. => "Connected to MySQL"
  | rejected reply => s!"Authentication failed: {reply.message}"
  | queryFailed reply => s!"Query failed: {reply.message}"
  | resultSet .. => "Result set"
  | quitUndelivered .. => "COM_QUIT not delivered"
  | closed => "Connection closed"

/-- What tells of a packet that came in. The journal's readers tell packets by these
two texts. -/
@[simp] theorem message_received (sequence : UInt8) (payload : Bytes) :
    (received sequence payload).message = "<- packet" := rfl

/-- What tells of a packet that went out. -/
@[simp] theorem message_sent (sequence : UInt8) (payload : Bytes) :
    (sent sequence payload).message = "-> packet" := rfl

/-- What a journal shows of a packet. -/
def packetDetails (sequence : UInt8) (payload : Bytes) : List (String × Detail) :=
  [("sequence_id", .number sequence.toNat), ("len", .number payload.length),
    ("bytes", .text payload.hexDump)]

/-- What a journal shows of a refusal. -/
def refusalDetails (reply : ErrReply) : List (String × Detail) :=
  [("code", .number reply.code.toNat), ("sqlstate", .text reply.sqlState)]

/-- The values that come with an event, by name. -/
def details : Event → List (String × Detail)
  | received sequence payload => packetDetails sequence payload
  | sent sequence payload => packetDetails sequence payload
  | connecting host port attempt =>
    [("host", .text host), ("port", .number port.toNat), ("attempt", .number attempt)]
  | connectFailed attempt attempts error =>
    [("attempt", .number attempt), ("attempts", .number attempts), ("error", .text error.message)]
  | greeted serverVersion threadId capabilities =>
    [("server_version", .text serverVersion), ("thread_id", .number threadId.toNat),
      ("capabilities", .number capabilities.toNat)]
  | loginSent user plugin => [("user", .text user), ("auth_plugin", .text plugin)]
  | connected serverVersion threadId user =>
    [("server_version", .text serverVersion), ("connection_id", .number threadId.toNat),
      ("user", .text user)]
  | rejected reply => refusalDetails reply
  | queryFailed reply => refusalDetails reply
  | resultSet columnCount => [("column_count", .number columnCount)]
  | quitUndelivered error => [("error", .text error.text)]
  | closed => []

end Event

end SqlWire
