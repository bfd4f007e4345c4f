import SqlWire.Error
import SqlWire.Reply
import SqlWire.Scramble

/-!
# The server's greeting

A server speaks first. Its greeting names the protocol version, the server version, the session's
thread id, the server's capabilities and, in two parts, the seed that the login answers. Its layout:

    1   protocol version
    n   server version, with a zero byte after it
    4   thread id
    8   seed, first part
    1   filler
    2   capabilities, lower half
    1   character set
    2   status flags
    2   capabilities, upper half
    1   length of the seed
    10  reserved
    12  seed, second part
    1   zero

A server that refuses the client outright sends an ERR reply in its place.
-/

set_option autoImplicit false

namespace SqlWire

/-- What a server says of itself and of the new session. -/
structure Greeting where
  protocolVersion : UInt8
  serverVersion : String
  /-- The server's number for the session. -/
  threadId : UInt32
  /-- Both parts of the seed. -/
  seed : Bytes
  capabilities : UInt32
  charset : UInt8
  statusFlags : UInt16
deriving DecidableEq, Repr

namespace Greeting

/-- The only layout that is understood. -/
def supportedVersion : UInt8 := 10

/-- Bytes of the seed in its first part. -/
def seedFirstLength : Nat := 8

/-- Bytes of the seed in its second part. -/
def seedSecondLength : Nat := Scramble.length - seedFirstLength

/-- Bytes between the capabilities and the second part of the seed: the seed's length and the
reserved block. -/
def reservedLength : Nat := 11

/-- Why a payload is no greeting. -/
inductive Defect where
  | empty
  /-- The server refuses the client. -/
  | refused (reply : ErrReply)
  /-- The payload begins as a refusal and is none. -/
  | garbledRefusal
  | version (found : UInt8)
  | unterminatedVersion
  | noThreadId
  | noSeedFirst
  /-- The payload ends between the two parts of the seed. -/
  | truncated
  | noSeedSecond
deriving DecidableEq, Repr

/-- The error that a defect is reported as. -/
def Defect.toError : Defect → Error
  | empty => .breach "Empty server greeting"
  | refused reply =>
    .connection {
      kind := .connect
      message := s!"Server refused connection: {reply.message}"
      code := some reply.code
      sqlState := reply.sqlState?
      source := none }
  | garbledRefusal => .breach "Invalid error packet in greeting"
  | version found => .breach s!"Unsupported protocol version: {found}"
  | unterminatedVersion => .breach "Unterminated server version"
  | noThreadId => .breach "Missing thread id"
  | noSeedFirst => .breach "Missing seed (part 1)"
  | truncated => .breach "Truncated server greeting"
  | noSeedSecond => .breach "Missing seed (part 2)"

/-- The step, with a defect for its failure. -/
def orDefect {α : Type} (step : Reader α) (defect : Defect) : EStateM Defect Cursor α :=
  step.adaptExcept fun _ => defect

/-- The fields behind the protocol version. -/
def readBody (protocolVersion : UInt8) : EStateM Defect Cursor Greeting := do
  let serverVersion ← orDefect Reader.terminatedText .unterminatedVersion
  let threadId ← orDefect Reader.word32 .noThreadId
  let seedFirst ← orDefect (Reader.bytes seedFirstLength) .noSeedFirst
  orDefect (Reader.skip 1) .truncated
  let lower ← orDefect Reader.word16 .truncated
  let charset ← orDefect Reader.byte .truncated
  let statusFlags ← orDefect Reader.word16 .truncated
  let upper ← orDefect Reader.word16 .truncated
  orDefect (Reader.skip reservedLength) .truncated
  let seedSecond ← orDefect (Reader.bytes seedSecondLength) .noSeedSecond
  return {
    protocolVersion, serverVersion, threadId, charset, statusFlags
    seed := seedFirst ++ seedSecond
    capabilities := lower.toUInt32 ||| upper.toUInt32 <<< 16 }

/-- The greeting that a payload holds, or the first defect found in it. -/
def parse (payload : Bytes) : Except Defect Greeting :=
  match payload with
  | [] => .error .empty
  | first :: rest =>
    -- No protocol version has the number of the ERR marker.
    if first = ErrReply.marker then
      match ErrReply.read.run? payload with
      | some reply => .error (.refused reply)
      | none => .error .garbledRefusal
    else if first = supportedVersion then
      match (readBody first).run ⟨1, rest⟩ with
      | .ok greeting _ => .ok greeting
      | .error defect _ => .error defect
    else .error (.version first)

end Greeting

/-- What a server says of itself, field by field, of whatever bytes the fields are that nobody
reads. -/
structure GreetingPacket where
  version : Bytes
  threadId : UInt32
  /-- Both parts of the seed. -/
  seed : Bytes
  filler : UInt8
  capabilities : UInt32
  charset : UInt8
  statusFlags : UInt16
  /-- Announced length of the seed; no reader relies on it. -/
  seedLength : UInt8
  reserved : Bytes
  /-- What stands behind the seed, as a rule a zero byte. -/
  trailing : Bytes
  version_terminated : 0 ∉ version
  length_seed : seed.length = Scramble.length
  length_reserved : reserved.length = 10

namespace GreetingPacket

/-- The fields from the server version to the second part of the seed. -/
def fields (p : GreetingPacket) : Bytes :=
  p.version ++ [0]
    ++ Bytes.ofNat 4 p.threadId.toNat
    ++ p.seed.take Greeting.seedFirstLength
    ++ [p.filler]
    ++ Bytes.ofNat 2 p.capabilities.toNat
    ++ [p.charset]
    ++ Bytes.ofNat 2 p.statusFlags.toNat
    ++ Bytes.ofNat 2 (p.capabilities.toNat / 0x10000)
    ++ (p.seedLength :: p.reserved)
    ++ p.seed.drop Greeting.seedFirstLength

/-- The payload a server sends. -/
def encode (p : GreetingPacket) : Bytes :=
  Greeting.supportedVersion :: (p.fields ++ p.trailing)

/-- The greeting that a client keeps. -/
def greeting (p : GreetingPacket) : Greeting where
  protocolVersion := Greeting.supportedVersion
  serverVersion := Utf8.decode p.version
  threadId := p.threadId
  seed := p.seed
  capabilities := p.capabilities
  charset := p.charset
  statusFlags := p.statusFlags

end GreetingPacket

end SqlWire
