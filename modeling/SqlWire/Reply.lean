import SqlWire.Reader

/-!
# Closing replies

Three short packets close an exchange or a part of it: OK after a command without rows, ERR after a
refused one, and EOF after the fields and again after the rows. Each has a reader, which passes over
the marker byte if it is there, and an encoder for the form that a 4.1 server sends.
-/

set_option autoImplicit false

namespace SqlWire

/-- The server's confirmation of a command. -/
structure OkReply where
  affectedRows : UInt64
  lastInsertId : UInt64
  statusFlags : UInt16
  warnings : UInt16
  info : String
deriving DecidableEq, Repr

namespace OkReply

/-- First byte of the packet. -/
def marker : UInt8 := 0x00

/-- Reads the reply; all that follows the warnings is its text. -/
def read : Reader OkReply := do
  Reader.skipMarker marker
  let affectedRows ← Reader.codedInt
  let lastInsertId ← Reader.codedInt
  let statusFlags ← Reader.word16
  let warnings ← Reader.word16
  let info ← Reader.restText
  return { affectedRows, lastInsertId, statusFlags, warnings, info }

/-- The payload a server sends. -/
def encode (r : OkReply) : Bytes :=
  marker :: (LengthCoded.encode r.affectedRows ++ LengthCoded.encode r.lastInsertId
    ++ Bytes.ofNat 2 r.statusFlags.toNat ++ Bytes.ofNat 2 r.warnings.toNat ++ Utf8.encode r.info)

end OkReply

/-- The server's refusal of a command. -/
structure ErrReply where
  code : UInt16
  /-- Five characters, or empty where the server sends none. -/
  sqlState : String
  message : String
deriving DecidableEq, Repr

namespace ErrReply

/-- First byte of the packet. -/
def marker : UInt8 := 0xFF

/-- Byte in front of the SQLSTATE; servers before 4.1 send neither. -/
def stateMarker : UInt8 := 0x23

/-- Characters in a SQLSTATE. -/
def stateLength : Nat := 5

/-- Reads the reply; all that follows the code and state is its text. -/
def read : Reader ErrReply := do
  Reader.skipMarker marker
  let code ← Reader.word16
  let sqlState ←
    if (← get).peek = some stateMarker then
      Reader.skipMarker stateMarker
      Reader.text stateLength
    else pure ""
  let message ← Reader.restText
  return { code, sqlState, message }

/-- The SQLSTATE, where there is one. -/
def sqlState? (r : ErrReply) : Option String :=
  if r.sqlState.isEmpty then none else some r.sqlState

/-- A unique key already holds the value. -/
def isDuplicateKey (r : ErrReply) : Bool :=
  r.code == 1062

/-- A foreign key stands against the change. -/
def isForeignKeyViolation (r : ErrReply) : Bool :=
  r.code == 1451 || r.code == 1452

/-- The payload a server sends; with an empty state the one that servers before 4.1 send. -/
def encode (r : ErrReply) : Bytes :=
  let state := if r.sqlState.isEmpty then [] else stateMarker :: Utf8.encode r.sqlState
  marker :: (Bytes.ofNat 2 r.code.toNat ++ state ++ Utf8.encode r.message)

end ErrReply

/-- The marker behind the fields and behind the rows. -/
structure EofReply where
  warnings : UInt16
  statusFlags : UInt16
deriving DecidableEq, Repr

namespace EofReply

/-- First byte of the packet. -/
def marker : UInt8 := 0xFE

/-- Reads the marker's two words. -/
def read : Reader EofReply := do
  Reader.skipMarker marker
  let warnings ← Reader.word16
  let statusFlags ← Reader.word16
  return { warnings, statusFlags }

/-- The payload a server sends. -/
def encode (r : EofReply) : Bytes :=
  marker :: (Bytes.ofNat 2 r.warnings.toNat ++ Bytes.ofNat 2 r.statusFlags.toNat)

end EofReply

end SqlWire
