import SqlWire.Action
import SqlWire.Error
import SqlWire.Reader

/-!
# Rows

A row packet is a run of length-coded strings, one for each column in the order of
the fields, with the NULL marker for SQL NULL. A `Row` is read column by column from
the left.
-/

set_option autoImplicit false

namespace SqlWire

/-- A row packet and how far it has been read. -/
structure Row where
  /-- The whole packet. -/
  payload : Bytes
  /-- Columns that the result set's header announced. -/
  columnCount : Nat
  /-- The columns not read yet. -/
  cursor : Cursor
deriving DecidableEq, Repr

namespace Row

/-- A row of which nothing has been read. -/
def ofPayload (payload : Bytes) (columnCount : Nat) : Row :=
  ⟨payload, columnCount, .ofBytes payload⟩

/-- The packet of a row with the given cells. -/
def encode (cells : List (Option Bytes)) : Bytes :=
  cells.flatMap LengthCoded.encodeCell

/-- Every column has been read. -/
def isExhausted (r : Row) : Bool :=
  r.cursor.isEmpty

/-- A breach of the protocol that the row shows. -/
def breach (r : Row) (message : String) : Error :=
  .breachIn message r.payload

/-- The next column, `none` for SQL NULL. A column that cannot be read stays the
next one. -/
def nextValue : EStateM Error Row (Option Bytes) := do
  let r ← get
  Action.ensure (r.isExhausted = false) (r.breach "Row has no more columns")
  match Reader.cell.run r.cursor with
  | .ok value cursor =>
    set { r with cursor }
    return value
  -- The cursor of a failed read is dropped: the column stays where it was.
  | .error _ _ => throw (r.breach "Truncated column value")

/-- The next column as text, `none` for SQL NULL. -/
def nextText : EStateM Error Row (Option String) :=
  return (← nextValue).map Utf8.decode

/-- The columns up to the end of the row; `done` holds those before, last one first.
Each column takes a byte at least, so the bytes ahead bound the number of columns. -/
def drain : (fuel : Nat) → (done : List (Option String)) → EStateM Error Row (List (Option String))
  | 0, done => return done.reverse
  | fuel + 1, done => do
    if (← get).isExhausted then return done.reverse
    else
      let value ← nextText
      drain fuel (value :: done)

/-- Every column not read yet. There must be as many as the header announced. Room
for as many values as were announced is reserved before the first of them is read;
the reservation is taken to succeed, however large the announced count. -/
def values : EStateM Error Row (List (Option String)) := do
  let cells ← drain (← get).cursor.remaining []
  let r ← get
  Action.ensure (cells.length = r.columnCount)
    (r.breach s!"Row carries {cells.length} columns, header announced {r.columnCount}")
  return cells

end Row

end SqlWire
