import SqlWire.Bytes

/-!
# Numbers that the protocol gives names to

Capability bits, server status bits, character sets, column attributes and command codes.
-/

set_option autoImplicit false

namespace SqlWire

namespace Capability

def longPassword : UInt32 := 0x000001
def foundRows : UInt32 := 0x000002
def longFlag : UInt32 := 0x000004
def connectWithDatabase : UInt32 := 0x000008
def noSchema : UInt32 := 0x000010
def compress : UInt32 := 0x000020
def odbc : UInt32 := 0x000040
def localFiles : UInt32 := 0x000080
def ignoreSpace : UInt32 := 0x000100
def protocol41 : UInt32 := 0x000200
def interactive : UInt32 := 0x000400
def ssl : UInt32 := 0x000800
def ignoreSigpipe : UInt32 := 0x001000
def transactions : UInt32 := 0x002000
def reserved : UInt32 := 0x004000
def secureConnection : UInt32 := 0x008000
def multiStatements : UInt32 := 0x010000
def multiResults : UInt32 := 0x020000
def pluginAuth : UInt32 := 0x080000
def deprecateEof : UInt32 := 0x1000000

/-- Every capability that has a name, from the lowest bit up. -/
def all : List UInt32 :=
  [longPassword, foundRows, longFlag, connectWithDatabase, noSchema, compress, odbc, localFiles,
    ignoreSpace, protocol41, interactive, ssl, ignoreSigpipe, transactions, reserved,
    secureConnection, multiStatements, multiResults, pluginAuth, deprecateEof]

/-- What a client asks for unless told otherwise: the 4.1 protocol with the 20-byte scramble and end
markers, without encryption, compression, local files or several statements at once. -/
def standard : UInt32 :=
  longPassword ||| longFlag ||| protocol41 ||| interactive ||| transactions ||| secureConnection

end Capability

namespace ServerStatus

def inTransaction : UInt16 := 0x0001
def autocommit : UInt16 := 0x0002
def moreResultsExist : UInt16 := 0x0008
def noGoodIndexUsed : UInt16 := 0x0010
def noIndexUsed : UInt16 := 0x0020
def lastRowSent : UInt16 := 0x0080
def queryWasSlow : UInt16 := 0x0800

/-- Every status bit that has a name, from the lowest bit up. -/
def all : List UInt16 :=
  [inTransaction, autocommit, moreResultsExist, noGoodIndexUsed, noIndexUsed, lastRowSent,
    queryWasSlow]

end ServerStatus

namespace Charset

def latin1Swedish : UInt8 := 8
def utf8General : UInt8 := 33
def utf8mb4General : UInt8 := 45
def binary : UInt8 := 63

/-- Every character set that has a name, by number. -/
def all : List UInt8 :=
  [latin1Swedish, utf8General, utf8mb4General, binary]

/-- The character set of a client that was told none. -/
def standard : UInt8 := latin1Swedish

end Charset

namespace ColumnFlag

def notNull : UInt16 := 0x0001
def primaryKey : UInt16 := 0x0002
def uniqueKey : UInt16 := 0x0004
def blob : UInt16 := 0x0010
def unsigned : UInt16 := 0x0020
def binary : UInt16 := 0x0080
def autoIncrement : UInt16 := 0x0200

/-- Every column attribute that has a name, from the lowest bit up. -/
def all : List UInt16 :=
  [notNull, primaryKey, uniqueKey, blob, unsigned, binary, autoIncrement]

end ColumnFlag

/-- The commands that a client sends. -/
inductive Command where
  /-- Ends the session. -/
  | quit
  /-- Runs a statement. -/
  | query
  /-- Asks whether the server is alive. -/
  | ping
deriving DecidableEq, Repr

/-- First payload byte of a command. -/
def Command.code : Command → UInt8
  | quit => 0x01
  | query => 0x03
  | ping => 0x0E

/-- The payload of the command with a code: the code and the argument behind it. -/
def commandPayload (code : UInt8) (argument : Bytes) : Bytes :=
  code :: argument

/-- The payload of a command. -/
def Command.payload (c : Command) (argument : Bytes) : Bytes :=
  commandPayload c.code argument

end SqlWire
