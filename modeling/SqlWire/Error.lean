import SqlWire.Bytes

/-!
# What can go wrong

`IoError` is what a transport or an output reports. `Error` is what the library reports: trouble
with the connection, a query that the server or the client refused, bytes that break the protocol, a
configuration that cannot work, an output that failed, or a server that did not answer in time.

After `Error.isConnectionError` the stream may be anywhere in the middle of a reply and the session
is not to be used again; after any other error the reply has been read to its end.
-/

set_option autoImplicit false

namespace SqlWire

/-- Kinds of transport and output failures. -/
inductive IoErrorKind where
  | notFound
  | permissionDenied
  | connectionRefused
  | connectionReset
  | hostUnreachable
  | networkUnreachable
  | connectionAborted
  | notConnected
  | addrInUse
  | addrNotAvailable
  | networkDown
  | brokenPipe
  | alreadyExists
  | wouldBlock
  | notADirectory
  | isADirectory
  | directoryNotEmpty
  | readOnlyFilesystem
  | staleNetworkFileHandle
  | invalidInput
  | invalidData
  | timedOut
  | writeZero
  | storageFull
  | notSeekable
  | quotaExceeded
  | fileTooLarge
  | resourceBusy
  | executableFileBusy
  | deadlock
  | crossesDevices
  | tooManyLinks
  | invalidFilename
  | argumentListTooLong
  | interrupted
  | unsupported
  | unexpectedEof
  | outOfMemory
  | other
deriving DecidableEq, Repr

/-- A failure of a transport or an output. -/
structure IoError where
  kind : IoErrorKind
  message : String
deriving DecidableEq, Repr

/-- Where a connection failed. -/
inductive ConnectionErrorKind where
  /-- No session could be opened. -/
  | connect
  /-- The server refused the credentials. -/
  | authentication
  /-- The transport broke. -/
  | disconnected
  /-- The session is not ready for commands. -/
  | notConnected
deriving DecidableEq, Repr

/-- Trouble with the connection. -/
structure ConnectionError where
  kind : ConnectionErrorKind
  message : String
  code : Option UInt16
  sqlState : Option String
  source : Option IoError
deriving DecidableEq, Repr

/-- Why a query was refused. -/
inductive QueryErrorKind where
  /-- The statement does not parse. -/
  | grammar
  /-- A unique or foreign key stands against it. -/
  | constraint
  /-- It names a table, column or database that does not exist. -/
  | notFound
  /-- The user may not do it. -/
  | permission
  /-- Another transaction holds the rows. -/
  | deadlock
  /-- The client does not send a query that long. -/
  | tooLarge
  /-- Any other answer of the server. -/
  | database
deriving DecidableEq, Repr

/-- A refused query. -/
structure QueryError where
  kind : QueryErrorKind
  code : Option UInt16
  sqlState : Option String
  message : String
  sql : Option String
deriving DecidableEq, Repr

/-- Bytes that break the protocol. -/
structure ProtocolError where
  message : String
  /-- The bytes in question, where they are at hand. -/
  raw : Option Bytes
  source : Option IoError
deriving DecidableEq, Repr

/-- Whatever an operation of this library can fail with. -/
inductive Error where
  | connection (e : ConnectionError)
  | query (e : QueryError)
  | protocol (e : ProtocolError)
  /-- The configuration cannot work, for the reason given. -/
  | config (reason : String)
  /-- An output failed. -/
  | output (e : IoError)
  /-- The server sent nothing within the poll budget. -/
  | timeout
deriving DecidableEq, Repr

/-- The text of a connection error, with the server's code where there is one. -/
def ConnectionError.text (e : ConnectionError) : String :=
  match e.code with
  | some code => s!"{e.message} (error {code})"
  | none => e.message

/-- The text of a query error, with the server's code and, behind a code only, its SQLSTATE. -/
def QueryError.text (e : QueryError) : String :=
  match e.code, e.sqlState with
  | some code, some state => s!"{e.message} (error {code}, SQLSTATE {state})"
  | some code, none => s!"{e.message} (error {code})"
  | none, _ => e.message

namespace Error

/-- A connection error without a server's code and without a cause below. -/
def connectionTrouble (kind : ConnectionErrorKind) (message : String) : Error :=
  .connection ⟨kind, message, none, none, none⟩

/-- The transport failed while something was done to it. -/
def disconnected (what : String) (e : IoError) : Error :=
  .connection ⟨.disconnected, s!"{what}: {e.message}", none, none, some e⟩

/-- A breach of the protocol without the bytes. -/
def breach (message : String) : Error :=
  .protocol ⟨message, none, none⟩

/-- A breach of the protocol with the bytes that show it. -/
def breachIn (message : String) (raw : Bytes) : Error :=
  .protocol ⟨message, some raw, none⟩

/-- The text of what the error carries, where it carries more than a cause. -/
def detail : Error → Option String
  | connection e => some e.text
  | query e => some e.text
  | protocol e => some e.message
  | config reason => some reason
  | output _ => none
  | timeout => none

/-- The text of an error. -/
def text : Error → String
  | connection e => s!"Connection error: {e.text}"
  | query e => s!"Query error: {e.text}"
  | protocol e => s!"Protocol error: {e.message}"
  | config reason => s!"Configuration error: {reason}"
  | output e => s!"I/O error: {e.message}"
  | timeout => "Timed out waiting for server data"

/-- The server's error number. -/
def code : Error → Option UInt16
  | connection e => e.code
  | query e => e.code
  | _ => none

/-- The server's SQLSTATE. -/
def sqlState : Error → Option String
  | connection e => e.sqlState
  | query e => e.sqlState
  | _ => none

/-- The query that failed, where the error carries it. -/
def sql : Error → Option String
  | query e => e.sql
  | _ => none

/-- The bytes that break the protocol. -/
def raw : Error → Option Bytes
  | protocol e => e.raw
  | _ => none

/-- The failure below this one. -/
def source : Error → Option IoError
  | connection e => e.source
  | protocol e => e.source
  | output e => some e
  | _ => none

/-- The session is not to be used again. -/
def isConnectionError : Error → Bool
  | connection _ => true
  | protocol _ => true
  | output _ => true
  | timeout => true
  | query _ => false
  | config _ => false

/-- The server refused the credentials. -/
def isAuthFailure : Error → Bool
  | connection e => e.kind == .authentication
  | _ => false

end Error

end SqlWire
