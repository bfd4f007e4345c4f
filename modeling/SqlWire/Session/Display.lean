import SqlWire.Session.Results
import SqlWire.Sink

/-!
# Showing a result set

The fields and rows of an announced result set are written out as they are read: the
names of the fields on one line, each row on a line of its own, and a line with the
number of rows. Cells are separated by commas, and SQL NULL is written as such.
-/

set_option autoImplicit false

namespace SqlWire.Session

variable {τ : Type}

/-- Acts on the session beside an output. -/
def besideSink {α : Type} (action : SessionM τ α) : EStateM Error (Session τ × Sink) α :=
  Action.focus Prod.fst (fun s (_, sink) => (s, sink)) action

/-- Writes a text and the end of its line. -/
def writeLine (text : String) : EStateM Error (Session τ × Sink) Unit :=
  Action.focus Prod.snd (fun sink (s, _) => (s, sink))
    ((Sink.write (Utf8.encode text ++ [0x0A])).adaptExcept .output)

/-- The line of a row. -/
def rowLine (cells : List (Option String)) : String :=
  ",".intercalate (cells.map fun cell => cell.getD "NULL")

/-- The line that ends the display. -/
def countLine (rows : Nat) : String :=
  s!"{rows} rows in result."

/-- Reads and writes one row; gives none at the end marker. -/
def showRow [Transport τ] : EStateM Error (Session τ × Sink) (Option Unit) := do
  match ← besideSink nextCells with
  | none => return none
  | some cells =>
    writeLine (rowLine cells)
    return some ()

/-- Writes the announced result set to an output; gives the number of rows. Room for
as many column names as the server has announced is reserved beforehand, whether or
not that many fields follow; the reservation is taken to succeed, however large the
announced count. -/
def showResults [FiniteTransport τ] : EStateM Error (Session τ × Sink) Nat := do
  let fields ← besideSink readFields
  writeLine (",".intercalate (fields.map Field.name))
  let rows ← collect showRow (← get).1.packetBound []
  writeLine (countLine rows.length)
  return rows.length

end SqlWire.Session
