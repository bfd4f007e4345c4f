import SqlWire.Session.Connect
import SqlWire.Session.Display

/-!
# Runs of a session

`Operation` names everything that a session can be asked to do, `Operation.perform` does it, and
`Session.run` does one thing after another, whatever each of them comes to. A `Report` says what an
operation came to.
-/

set_option autoImplicit false

namespace SqlWire

/-- Something that a session can be asked to do. -/
inductive Operation where
  | connect
  | execute (sql : Bytes)
  | query (sql : String)
  | nextField
  | nextRow
  /-- Shows the announced result set on an output of the given capacity. -/
  | showResults (capacity : Option Nat)
  | ping
  | close
deriving DecidableEq, Repr

/-- What an operation that succeeds has to say. -/
inductive Answer where
  /-- No more than that it succeeded. -/
  | done
  | outcome (value : QueryOutcome)
  | result (value : QueryResult)
  /-- The next field, none at the end marker. -/
  | field (value : Option Field)
  /-- The next row, none at the end marker. -/
  | row (value : Option Row)
  /-- So many rows were shown. -/
  | shown (rows : Nat)
deriving DecidableEq, Repr

/-- What an operation came to. -/
structure Report where
  result : Except Error Answer
  /-- What was written to the output, by the operation that has one. -/
  output : Bytes := []

namespace Operation

variable {τ : Type}

/-- The report of an action, and the session after it. -/
def report {α : Type} (answer : α → Answer) (action : SessionM τ α) (s : Session τ) :
    Report × Session τ :=
  match action.run s with
  | .ok a s => (⟨.ok (answer a), []⟩, s)
  | .error e s => (⟨.error e, []⟩, s)

/-- Does what is asked. -/
def perform [FiniteTransport τ] : Operation → Session τ → Report × Session τ
  | connect => report (fun _ => .done) Session.connect
  | execute sql => report .outcome (Session.execute sql)
  | query sql => report .result (Session.query sql)
  | nextField => report .field Session.nextField
  | nextRow => report .row Session.nextRow
  | showResults capacity => fun s =>
    match Session.showResults.run (s, { capacity }) with
    | .ok rows (s, sink) => (⟨.ok (.shown rows), sink.contents⟩, s)
    | .error e (s, sink) => (⟨.error e, sink.contents⟩, s)
  | ping => report (fun _ => .done) Session.ping
  | close => report (fun _ => .done) Session.close

end Operation

/-- Does one thing after another; gives the reports in order and the session at the end. -/
def Session.run {τ : Type} [FiniteTransport τ] :
    List Operation → Session τ → List Report × Session τ
  | [], s => ([], s)
  | operation :: rest, s =>
    let (report, s) := operation.perform s
    let (reports, s) := run rest s
    (report :: reports, s)

end SqlWire
