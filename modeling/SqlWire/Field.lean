import SqlWire.ColumnType
import SqlWire.Flags
import SqlWire.Reader

/-!
# Field descriptors

Between the header of a result set and its rows the server describes each column in a packet of its
own: six length-coded strings (catalog, database, table, underlying table, name, underlying name),
the length of what follows, and a block of fixed size. Only the database, the table and the name are
kept of the strings. What may follow the block's last field is passed over.
-/

set_option autoImplicit false

namespace SqlWire

/-- A column of a result set. -/
structure Field where
  database : String
  table : String
  name : String
  charset : UInt16
  columnLength : UInt32
  type : ColumnType
  flags : UInt16
  decimals : UInt8
deriving DecidableEq, Repr

namespace Field

/-- Reads a descriptor by its layout. -/
def read : Reader Field := do
  Reader.skipCell
  let database ← Reader.codedText
  let table ← Reader.codedText
  Reader.skipCell
  let name ← Reader.codedText
  Reader.skipCell
  let _ ← Reader.codedInt
  let charset ← Reader.word16
  let columnLength ← Reader.word32
  let type ← Reader.byte
  let flags ← Reader.word16
  let decimals ← Reader.byte
  return { database, table, name, charset, columnLength, type := .ofCode type, flags, decimals }

/-- The descriptor at the front of a payload. -/
def parse? (payload : Bytes) : Option Field :=
  read.run? payload

/-- One of a set of attribute bits is on. -/
def hasFlag (f : Field) (flag : UInt16) : Bool :=
  f.flags &&& flag != 0

/-- The column holds no NULL. -/
def isNotNull (f : Field) : Bool := f.hasFlag ColumnFlag.notNull

/-- The column belongs to the primary key. -/
def isPrimaryKey (f : Field) : Bool := f.hasFlag ColumnFlag.primaryKey

/-- The column's numbers have no sign. -/
def isUnsigned (f : Field) : Bool := f.hasFlag ColumnFlag.unsigned

/-- The server numbers the column's values. -/
def isAutoIncrement (f : Field) : Bool := f.hasFlag ColumnFlag.autoIncrement

/-- The column's texts compare by bytes. -/
def isBinary (f : Field) : Bool := f.hasFlag ColumnFlag.binary

end Field

/-- What a server says of a column, string by string and number by number. -/
structure FieldPacket where
  catalog : Option Bytes
  database : Bytes
  table : Bytes
  baseTable : Option Bytes
  name : Bytes
  baseName : Option Bytes
  /-- Announced length of the block; no reader relies on it. -/
  blockLength : UInt64
  charset : UInt16
  columnLength : UInt32
  typeCode : UInt8
  flags : UInt16
  decimals : UInt8
deriving DecidableEq, Repr

namespace FieldPacket

/-- The payload a server sends, up to the last field that means anything. -/
def encode (p : FieldPacket) : Bytes :=
  LengthCoded.encodeCell p.catalog
    ++ LengthCoded.encodeBytes p.database
    ++ LengthCoded.encodeBytes p.table
    ++ LengthCoded.encodeCell p.baseTable
    ++ LengthCoded.encodeBytes p.name
    ++ LengthCoded.encodeCell p.baseName
    ++ LengthCoded.encode p.blockLength
    ++ Bytes.ofNat 2 p.charset.toNat
    ++ Bytes.ofNat 4 p.columnLength.toNat
    ++ [p.typeCode]
    ++ Bytes.ofNat 2 p.flags.toNat
    ++ [p.decimals]

/-- The descriptor that a client keeps. -/
def field (p : FieldPacket) : Field where
  database := Utf8.decode p.database
  table := Utf8.decode p.table
  name := Utf8.decode p.name
  charset := p.charset
  columnLength := p.columnLength
  type := .ofCode p.typeCode
  flags := p.flags
  decimals := p.decimals

end FieldPacket

end SqlWire
