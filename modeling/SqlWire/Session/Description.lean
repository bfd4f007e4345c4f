import SqlWire.Session
import SqlWire.Text.Quoted

/-!
# Sessions in diagnostics

One line names a session's state, number, server and database. The password has no place in it.
-/

set_option autoImplicit false

namespace SqlWire.Session

/-- An optional text as diagnostics show it. -/
def describeOption : Option String → String
  | none => "None"
  | some text => s!"Some({Text.quote text})"

/-- The line that names a session. -/
def describe {τ : Type} (s : Session τ) : String :=
  let state := s.state.name
  let host := Text.quote s.config.host
  let database := describeOption s.config.database
  s!"MySqlConnection \x7b state: {state}, connection_id: {s.connectionId}, host: {host}, "
    ++ s!"port: {s.config.port}, database: {database}, .. \x7d"

end SqlWire.Session
