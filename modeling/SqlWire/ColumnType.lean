/-!
# Column types

The types that a field descriptor can name, with their codes on the wire and their names in SQL.
Some types have a second code that servers use for newer storage formats; codes that mean nothing
else are read as character strings.
-/

set_option autoImplicit false

namespace SqlWire

/-- The type of a column. -/
inductive ColumnType where
  | decimal
  | tiny
  | short
  | long
  | float
  | double
  | null
  | timestamp
  | longLong
  | int24
  | date
  | time
  | dateTime
  | year
  | varChar
  | bit
  | json
  | newDecimal
  | enumeration
  | set
  | tinyBlob
  | mediumBlob
  | longBlob
  | blob
  | varString
  | string
  | geometry
deriving DecidableEq, Repr

namespace ColumnType

/-- The type that a code stands for. -/
def ofCode (code : UInt8) : ColumnType :=
  match code.toNat with
  | 0x00 => decimal
  | 0x01 => tiny
  | 0x02 => short
  | 0x03 => long
  | 0x04 => float
  | 0x05 => double
  | 0x06 => null
  | 0x07 | 0x11 => timestamp
  | 0x08 => longLong
  | 0x09 => int24
  | 0x0A | 0x0E => date
  | 0x0B | 0x13 => time
  | 0x0C | 0x12 => dateTime
  | 0x0D => year
  | 0x0F => varChar
  | 0x10 => bit
  | 0xF5 => json
  | 0xF6 => newDecimal
  | 0xF7 => enumeration
  | 0xF8 => set
  | 0xF9 => tinyBlob
  | 0xFA => mediumBlob
  | 0xFB => longBlob
  | 0xFC => blob
  | 0xFD => varString
  | 0xFF => geometry
  | _ => string

/-- The code that names a type; of two codes the plain one. -/
def code : ColumnType → UInt8
  | decimal => 0x00
  | tiny => 0x01
  | short => 0x02
  | long => 0x03
  | float => 0x04
  | double => 0x05
  | null => 0x06
  | timestamp => 0x07
  | longLong => 0x08
  | int24 => 0x09
  | date => 0x0A
  | time => 0x0B
  | dateTime => 0x0C
  | year => 0x0D
  | varChar => 0x0F
  | bit => 0x10
  | json => 0xF5
  | newDecimal => 0xF6
  | enumeration => 0xF7
  | set => 0xF8
  | tinyBlob => 0xF9
  | mediumBlob => 0xFA
  | longBlob => 0xFB
  | blob => 0xFC
  | varString => 0xFD
  | string => 0xFE
  | geometry => 0xFF

/-- A type's code reads as the type. -/
theorem ofCode_code (t : ColumnType) : ofCode t.code = t := by
  cases t <;> rfl

/-- The name of a type in SQL. -/
def sqlName : ColumnType → String
  | decimal => "DECIMAL"
  | tiny => "TINYINT"
  | short => "SMALLINT"
  | long => "INT"
  | float => "FLOAT"
  | double => "DOUBLE"
  | null => "NULL"
  | timestamp => "TIMESTAMP"
  | longLong => "BIGINT"
  | int24 => "MEDIUMINT"
  | date => "DATE"
  | time => "TIME"
  | dateTime => "DATETIME"
  | year => "YEAR"
  | varChar => "VARCHAR"
  | bit => "BIT"
  | json => "JSON"
  | newDecimal => "DECIMAL"
  | enumeration => "ENUM"
  | set => "SET"
  | tinyBlob => "TINYBLOB"
  | mediumBlob => "MEDIUMBLOB"
  | longBlob => "LONGBLOB"
  | blob => "BLOB"
  | varString => "VARCHAR"
  | string => "CHAR"
  | geometry => "GEOMETRY"

/-- The values of a type are numbers. -/
def isNumeric : ColumnType → Bool
  | tiny | short | long | longLong | int24 | year | float | double | decimal | newDecimal => true
  | _ => false

end ColumnType

end SqlWire
