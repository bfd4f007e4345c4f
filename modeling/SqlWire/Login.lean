import SqlWire.Config
import SqlWire.Reader
import SqlWire.Scramble

/-!
# The client's login

The login answers a greeting. Its layout is

    4   capabilities
    4   packet size
    1   character set
    23  reserved
    n   user, with a zero byte after it
    1   length of the answer to the seed
    n   answer to the seed
    n   database, with a zero byte after it

`Login.encode` writes it and `LoginPacket.read` reads it back, as a server does, field by field and
with the bytes that have no meaning.
-/

set_option autoImplicit false

namespace SqlWire

/-- What a client says at login. -/
structure Login where
  capabilities : UInt32
  maxPacketSize : UInt32
  charset : UInt8
  user : String
  /-- The answer to the seed; a client without a password gives none. -/
  answer : Option Bytes
  /-- The database to select, empty for none. -/
  database : String
deriving DecidableEq, Repr

namespace Login

/-- Bytes between the character set and the user. -/
def reservedLength : Nat := 23

/-- The login that a configuration gives for a seed. -/
def ofConfig (c : Config) (seed : Bytes) : Login where
  capabilities := c.loginFlags
  maxPacketSize := c.maxPacketSize
  charset := c.charset
  user := c.user
  answer := c.password.bind fun password => Scramble.answer password seed
  database := c.database.getD ""

/-- The answer behind its length. -/
def encodeAnswer : Option Bytes → Bytes
  | none => [0]
  | some answer => UInt8.ofNat answer.length :: answer

/-- The payload of a login. -/
def encode (l : Login) : Bytes :=
  Bytes.ofNat 4 l.capabilities.toNat
    ++ Bytes.ofNat 4 l.maxPacketSize.toNat
    ++ [l.charset]
    ++ List.replicate reservedLength 0
    ++ (Utf8.encode l.user ++ [0])
    ++ encodeAnswer l.answer
    ++ (Utf8.encode l.database ++ [0])

end Login

/-- A login as it stands in its packet, field by field. -/
structure LoginPacket where
  capabilities : UInt32
  maxPacketSize : UInt32
  charset : UInt8
  reserved : Bytes
  user : String
  /-- The length that is written in front of the answer. -/
  answerLength : UInt8
  answer : Bytes
  database : String
deriving DecidableEq, Repr

namespace LoginPacket

/-- Reads a login field by field, with what has no meaning. -/
def read : Reader LoginPacket := do
  let capabilities ← Reader.word32
  let maxPacketSize ← Reader.word32
  let charset ← Reader.byte
  let reserved ← Reader.bytes Login.reservedLength
  let user ← Reader.terminatedText
  let answerLength ← Reader.byte
  let answer ← Reader.bytes answerLength.toNat
  let database ← Reader.terminatedText
  return {
    capabilities, maxPacketSize, charset, reserved, user, answerLength, answer, database }

end LoginPacket

end SqlWire
