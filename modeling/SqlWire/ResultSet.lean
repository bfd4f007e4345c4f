import SqlWire.Field
import SqlWire.Reply

/-!
# Results of statements

A statement ends in a result set, read to its last row, or in the server's confirmation.
-/

set_option autoImplicit false

namespace SqlWire

/-- A result set. -/
structure ResultSet where
  fields : List Field
  /-- The rows in the order received, each with a cell per field and `none` for SQL NULL. -/
  rows : List (List (Option String))
deriving DecidableEq, Repr

namespace ResultSet

/-- Names of the columns in order. -/
def columnNames (s : ResultSet) : List String :=
  s.fields.map Field.name

/-- Place of the first column of a name. -/
def columnIndex? (s : ResultSet) (name : String) : Option Nat :=
  s.fields.findIdx? fun f => f.name == name

/-- The text at a row and a column; none for SQL NULL and outside of the set. -/
def get? (s : ResultSet) (row column : Nat) : Option String :=
  (s.rows[row]?.bind fun cells => cells[column]?).join

/-- Rows, counted. -/
def size (s : ResultSet) : Nat :=
  s.rows.length

/-- There are no rows. -/
def isEmpty (s : ResultSet) : Bool :=
  s.rows.isEmpty

end ResultSet

/-- What a statement ends in. -/
inductive QueryResult where
  | rows (set : ResultSet)
  | done (reply : OkReply)
deriving DecidableEq, Repr

namespace QueryResult

/-- The result set, if there is one. -/
def rows? : QueryResult → Option ResultSet
  | rows set => some set
  | done _ => none

/-- Rows that the statement changed; a result set changes none. -/
def affectedRows : QueryResult → UInt64
  | rows _ => 0
  | done reply => reply.affectedRows

end QueryResult

end SqlWire
