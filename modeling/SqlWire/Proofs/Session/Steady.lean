import SqlWire.Proofs.Collect
import SqlWire.Proofs.Session.Frame

/-!
# What commands and reads leave alone

Except for `connect` and `close`, what a session does is put together from a few
steps: it sends and receives, enters events, keeps a reply and, where it is
authenticated, the number of announced columns. A fact that each of these steps
keeps (`Steady`, and with the last one `Lasting`) is therefore kept by every
command, by every read and by the display, in any state and however they end.
`Lasting.perform` gathers them; what opening and closing keep is left to whoever
uses it, and their common parts stand here as well.
-/

set_option autoImplicit false

namespace SqlWire.Session

open SqlWire.Action

variable {τ : Type} [Transport τ]

/-- A fact about a session that packets, events and replies do not touch. These are
the steps that commands and reads are put together from, so a fact is proved steady
once and is kept by all of them. -/
structure Steady (I : Session τ → Prop) : Prop where
  receive : Maintains I receive
  send : ∀ payload, Maintains I (send payload)
  note : ∀ event, Maintains I (note event)
  startExchange : Maintains I startExchange
  reply : ∀ (s : Session τ) (affectedRows lastInsertId : UInt64) (statusFlags warnings : UInt16),
    I s → I { s with affectedRows, lastInsertId, statusFlags, warnings }

/-- A fact that neither touches the announcement of a result set. The number of
columns is only set in an authenticated session, and a fact may rely on that. -/
structure Lasting (I : Session τ → Prop) : Prop extends Steady I where
  columnCount : ∀ (s : Session τ) (columnCount : Nat), s.state = .authenticated → I s →
    I { s with columnCount }

variable {I : Session τ → Prop}

/-- An authenticated session stays one. What is kept together with its state may be
relied on between the steps of a command. -/
theorem Steady.whileReady (h : Steady I) :
    Steady fun s : Session τ => I s ∧ s.state = .authenticated where
  receive := h.receive.and (maintains_onChannel (fun _ _ hs => hs) _)
  send payload := (h.send payload).and (maintains_onChannel (fun _ _ hs => hs) _)
  note event := (h.note event).and (maintains_onChannel (fun _ _ hs => hs) _)
  startExchange := h.startExchange.and (maintains_onChannel (fun _ _ hs => hs) _)
  reply s _ _ _ _ hs := by
    obtain ⟨hI, hstate⟩ := hs
    exact ⟨h.reply s _ _ _ _ hI, hstate⟩

/-- How far a session has got is changed by opening and closing it alone. Commands
and reads look at it and leave it. -/
theorem lasting_state (P : SessionState → Prop) : Lasting fun s : Session τ => P s.state where
  receive := maintains_onChannel (fun _ _ hs => hs) _
  send _ := maintains_onChannel (fun _ _ hs => hs) _
  note _ := maintains_onChannel (fun _ _ hs => hs) _
  startExchange := maintains_onChannel (fun _ _ hs => hs) _
  reply _ _ _ _ _ hs := hs
  columnCount _ _ _ hs := hs

/-- What sees of the channel only what no exchange changes is steady, if replies do
not touch it. -/
theorem Sees.steady {β : Type} {view : Channel τ → β} (hI : Sees view I) (h : Channel.Kept view)
    (hreply : ∀ (s : Session τ) (affectedRows lastInsertId : UInt64)
      (statusFlags warnings : UInt16),
      I s → I { s with affectedRows, lastInsertId, statusFlags, warnings }) : Steady I where
  receive := hI.maintains_onChannel h.receive
  send payload := hI.maintains_onChannel (h.send payload)
  note event := hI.maintains_onChannel (h.note event)
  startExchange := hI.maintains_onChannel h.resetSequence
  reply := hreply

/-- What reading and writing keep true of the transport is steady. Replies are kept
in the session, so they cannot touch it. -/
theorem steady_transport {J : τ → Prop} (hreads : Channel.ReadsKeep J)
    (hwrite : ∀ bs, Maintains J (Transport.write bs : EStateM IoError τ Unit)) :
    Steady fun s : Session τ => J s.channel.transport where
  receive := maintains_onChannel_transport (Channel.maintains_receive hreads)
  send payload := maintains_onChannel_transport (Channel.maintains_send hwrite payload)
  note event := maintains_onChannel_transport (Channel.maintains_note event)
  startExchange := maintains_onChannel_transport Channel.maintains_resetSequence
  reply _ _ _ _ _ hs := hs

/-! ### Commands -/

/-- A statement keeps what is lasting. Behind the check every step is taken in an
authenticated session, and that is where the answer may set the number of columns. -/
theorem Lasting.maintains_execute (h : Lasting I) (sql : Bytes) : Maintains I (execute sql) := by
  refine maintains_requireReady_bind ?_
  have hready := h.toSteady.whileReady
  apply Maintains.bind maintains_get
  intro s
  apply Maintains.bind (maintains_ensure _ _)
  intro _
  apply Maintains.bind hready.startExchange
  intro _
  apply Maintains.bind (hready.send _)
  intro _
  apply Maintains.bind hready.receive
  intro packet
  -- There is one case for each kind of answer: a reply, a refusal, and the header of a
  -- result set.
  cases packet.kind with
  | ok =>
    apply Maintains.bind (maintains_decode _ _ _ _)
    intro reply
    refine .bind (maintains_modify fun s hs => hready.reply s _ _ _ _ hs) ?_
    intro _
    -- A statement without rows announces no columns.
    refine .bind (maintains_modify fun s hs => ?_) fun _ => maintains_pure _
    obtain ⟨hI, hstate⟩ := hs
    exact ⟨h.columnCount s 0 hstate hI, hstate⟩
  | error =>
    apply Maintains.bind (maintains_decode _ _ _ _)
    intro reply
    refine .bind (hready.note _) ?_
    intro _
    exact maintains_throw _
  | eof | data =>
    dsimp only
    split
    case h_1 columnCount _ =>
      refine .bind (maintains_modify fun s hs => ?_) ?_
      · obtain ⟨hI, hstate⟩ := hs
        exact ⟨h.columnCount s columnCount hstate hI, hstate⟩
      · intro _
        refine .bind (hready.note _) ?_
        intro _
        exact maintains_pure _
    case h_2 => exact maintains_throw _

/-- A ping keeps what is steady. Its reply is kept for its status alone, which is
one of the things that a reply may change. -/
theorem Steady.maintains_ping (h : Steady I) : Maintains I ping := by
  refine maintains_requireReady_bind ?_
  have hready := h.whileReady
  apply Maintains.bind hready.startExchange
  intro _
  apply Maintains.bind (hready.send _)
  intro _
  apply Maintains.bind hready.receive
  intro packet
  cases packet.kind with
  | ok =>
    apply Maintains.bind (maintains_decode _ _ _ _)
    intro reply
    exact maintains_modify fun s hs => hready.reply s s.affectedRows s.lastInsertId _ s.warnings hs
  | error => exact .bind (maintains_decode _ _ _ _) fun reply => maintains_throw _
  | eof | data => exact maintains_throw _

/-! ### Reads -/

namespace Steady

/-- The reply at an end marker is kept with the counters left as they are, which a
steady fact does not mind. -/
theorem maintains_recordEof (h : Steady I) (reply : EofReply) : Maintains I (recordEof reply) := by
  apply maintains_modify
  intro s hs
  exact h.reply s s.affectedRows s.lastInsertId _ _ hs

/-- Reading a field keeps what is steady, whether there is a field, an end marker or
an error. -/
theorem maintains_nextField (h : Steady I) : Maintains I nextField := by
  apply Maintains.bind h.receive
  intro packet
  cases packet.kind with
  | eof =>
    apply Maintains.bind (maintains_decode _ _ _ _)
    intro reply
    refine .bind (h.maintains_recordEof reply) ?_
    intro _
    exact maintains_pure _
  | error => exact .bind (maintains_decode _ _ _ _) fun reply => maintains_throw _
  | ok | data =>
    dsimp only
    split
    · exact maintains_pure _
    · exact maintains_throw _

/-- Reading a row does as well. The row is made out of what is in the session, which
is not changed by it. -/
theorem maintains_nextRow (h : Steady I) : Maintains I nextRow := by
  apply Maintains.bind h.receive
  intro packet
  cases packet.kind with
  | eof =>
    apply Maintains.bind (maintains_decode _ _ _ _)
    intro reply
    refine .bind (h.maintains_recordEof reply) ?_
    intro _
    exact maintains_pure _
  | error => exact .bind (maintains_decode _ _ _ _) fun reply => maintains_throw _
  | ok | data => exact .bind maintains_get fun s => maintains_pure _

/-- Reading the columns of a row adds nothing to reading the row, for they are
decoded out of it. -/
theorem maintains_nextCells (h : Steady I) : Maintains I nextCells := by
  apply Maintains.bind h.maintains_nextRow
  intro row
  split
  · exact maintains_pure _
  · split
    · exact maintains_pure _
    · exact maintains_throw _

end Steady

/-! ### The display -/

/-- Showing a row keeps of the session what reading it keeps. Writing it out is done
beside the session. -/
theorem Steady.maintains_showRow (h : Steady I) :
    Maintains (fun x : Session τ × Sink => I x.1) showRow := by
  refine .bind (.focus (fun _ => rfl) fun _ => h.maintains_nextCells) ?_
  intro cells
  cases cells with
  | none => exact maintains_pure _
  | some cells => exact .bind (maintains_writeLine I _) fun _ => maintains_pure _

/-! ### Opening, logging in and taking leave -/

/-- What noting and each attempt to connect keep, all attempts keep. The one that
succeeds may leave more than that, and if none does, the transport could not be
reached. The induction is on the attempts that remain. -/
theorem ends_openTransport {J : Session τ → Prop} {bad : Error → Session τ → Prop}
    (hnote : ∀ (s : Session τ) (event : Event), I s → I { s with channel := s.channel.noted event })
    (hattempt : ∀ (host : String) (port : UInt16) (s : Session τ), I s →
      Ends (Transport.connect host port) s.channel.transport
        (fun _ t => J (s.mapTransport fun _ => t)) (fun _ t => I (s.mapTransport fun _ => t)))
    (hunreachable : ∀ (config : Config) (attempts : Nat) (last : Option IoError) (s : Session τ),
      I s → bad (unreachable config attempts last) s)
    (remaining made : Nat) (last : Option IoError) (s : Session τ) (hs : I s) :
    Ends (openTransport remaining made last) s (fun _ s' => J s') bad := by
  induction remaining generalizing made last s with
  | zero => exact hunreachable _ _ _ s hs
  | succ remaining ih =>
    simp only [openTransport, note, Channel.note, onTransport, Channel.onTransport, onChannel,
      ends_bind, ends_get, ends_focus, ends_modify, ends_outcome]
    have hnoted := hnote s (.connecting s.config.host s.config.port (made + 1)) hs
    apply (hattempt s.config.host s.config.port _ hnoted).mono
    -- The first attempt that succeeds ends the loop.
    · intro _ t ht
      exact ht
    -- A failed one is noted as well, and the next one is made from there.
    · intro e t ht
      exact ih _ _ _ (hnote _ _ ht)

namespace Steady

/-- The first packet of a login moves the state on and nothing else, so the fact
must not depend on the state. -/
theorem maintains_readGreeting (h : Steady I)
    (hstate : ∀ (s : Session τ) (state : SessionState), I s → I { s with state }) :
    Maintains I readGreeting := by
  apply Maintains.bind h.startExchange
  intro _
  apply Maintains.bind h.receive
  intro packet
  split
  · refine .bind (maintains_modify fun s hs => hstate s _ hs) ?_
    intro _
    refine .bind (h.note _) ?_
    intro _
    exact maintains_pure _
  · exact maintains_throw _

/-- So does the second one, which is the only one that the client sends. -/
theorem maintains_sendLogin (h : Steady I)
    (hstate : ∀ (s : Session τ) (state : SessionState), I s → I { s with state })
    (greeting : Greeting) : Maintains I (sendLogin greeting) := by
  apply Maintains.bind maintains_get
  intro s
  apply Maintains.bind (h.send _)
  intro _
  refine .bind (maintains_modify fun s hs => hstate s _ hs) ?_
  intro _
  exact h.note _

/-- The verdict is kept with what the greeting said of the server, and a refusal is
kept in the state. -/
theorem maintains_readVerdict (h : Steady I)
    (hserver : ∀ (s : Session τ) (state : SessionState) (serverVersion : Option String)
      (connectionId : UInt32), I s → I { s with state, serverVersion, connectionId })
    (greeting : Greeting) : Maintains I (readVerdict greeting) := by
  apply Maintains.bind h.receive
  intro packet
  cases packet.kind with
  | ok =>
    apply Maintains.bind (maintains_decode _ _ _ _)
    intro reply
    refine .bind (maintains_modify fun s hs => h.reply s _ _ _ _ hs) ?_
    intro _
    refine .bind (maintains_modify fun s hs => hserver s _ _ _ hs) ?_
    intro _
    refine .bind maintains_get ?_
    intro s
    exact h.note _
  | error =>
    apply Maintains.bind (maintains_decode _ _ _ _)
    intro reply
    refine .bind (maintains_modify fun s hs => ?_) ?_
    · -- A refused login changes the state alone.
      exact hserver s .rejected s.serverVersion s.connectionId hs
    · intro _
      refine .bind (h.note _) ?_
      intro _
      exact maintains_throw _
  | eof | data => exact maintains_throw _

/-- A login keeps what survives each of its packets. The state changes with each,
and only the last may change what is known of the server. -/
theorem maintains_login (h : Steady I)
    (hserver : ∀ (s : Session τ) (state : SessionState) (serverVersion : Option String)
      (connectionId : UInt32), I s → I { s with state, serverVersion, connectionId }) :
    Maintains I login := by
  have hstate : ∀ (s : Session τ) (state : SessionState), I s → I { s with state } := by
    intro s state hs
    exact hserver s state s.serverVersion s.connectionId hs
  apply Maintains.bind (h.maintains_readGreeting hstate)
  intro greeting
  apply Maintains.bind (h.maintains_sendLogin hstate greeting)
  intro _
  exact h.maintains_readVerdict hserver greeting

/-- Taking leave keeps what is steady, whether a goodbye is due or not and whether
it can be delivered. -/
theorem maintains_leave (h : Steady I) : Maintains I leave := by
  apply Maintains.bind maintains_get
  intro s
  split
  · refine .bind (.outcome (.bind h.startExchange fun _ => h.send _)) ?_
    intro result
    cases result with
    | ok => exact maintains_pure _
    | error e => exact h.note _
  · exact maintains_pure _

/-- What the closing of the transport keeps, together with the state and count that
go with it, the end of a session keeps. -/
theorem maintains_close (h : Steady I)
    (hclose : ∀ s : Session τ, I s →
      I { s.mapTransport Transport.close with state := .disconnected, columnCount := 0 }) :
    Maintains I close := by
  apply Maintains.bind h.maintains_leave
  intro _
  apply Maintains.bind (maintains_modify hclose)
  intro _
  exact h.note _

end Steady

/-! ### Loops and operations -/

section Operations

variable {τ : Type} [FiniteTransport τ] {I : Session τ → Prop}

/-- Reading all fields keeps what reading one keeps, in however many rounds. -/
theorem Steady.maintains_readFields (h : Steady I) : Maintains I readFields := by
  apply Maintains.bind maintains_get
  intro s
  exact maintains_collect h.maintains_nextField s.packetBound []

/-- A query keeps what a statement, the reading of fields and the reading of rows
keep. -/
theorem Lasting.maintains_query (h : Lasting I) (sql : String) : Maintains I (query sql) := by
  apply Maintains.bind (h.maintains_execute _)
  intro outcome
  cases outcome with
  | done reply => exact maintains_pure _
  | resultSet columnCount =>
    apply Maintains.bind h.maintains_readFields
    intro fields
    apply Maintains.bind (maintains_ensure _ _)
    intro _
    refine .bind (.bind maintains_get fun s => ?_) fun rows => maintains_pure _
    exact maintains_collect h.maintains_nextCells _ _

/-- The display keeps of the session what reading a result keeps. The output beside
it is nobody's concern. -/
theorem Steady.maintains_showResults (h : Steady I) :
    Maintains (fun x : Session τ × Sink => I x.1) showResults := by
  refine .bind (.focus (fun _ => rfl) fun _ => h.maintains_readFields) ?_
  intro fields
  apply Maintains.bind (maintains_writeLine I _)
  intro _
  apply Maintains.bind maintains_get
  intro x
  apply Maintains.bind (maintains_collect h.maintains_showRow _ _)
  intro rows
  refine .bind (maintains_writeLine I _) ?_
  intro _
  exact maintains_pure _

/-- A lasting fact that closing keeps is kept by whatever a session is asked to do
but to connect. -/
theorem Lasting.perform_of_ne_connect (h : Lasting I) (hclose : Maintains I close)
    {operation : Operation} (hne : operation ≠ .connect) (s : Session τ) (hs : I s) :
    I (operation.perform s).2 := by
  cases operation with
  | connect => exact absurd rfl hne
  | execute sql => exact report_of_maintains (h.maintains_execute sql) _ hs
  | query sql => exact report_of_maintains (h.maintains_query sql) _ hs
  | nextField => exact report_of_maintains h.maintains_nextField _ hs
  | nextRow => exact report_of_maintains h.maintains_nextRow _ hs
  | showResults capacity =>
    exact report_showResults_of_ends (fun _ s' => I s') (h.maintains_showResults _ hs)
  | ping => exact report_of_maintains h.maintains_ping _ hs
  | close => exact report_of_maintains hclose _ hs

/-- One that opening keeps as well is kept by all of it. With `run_of_perform` this
is the form in which laws about every run are proved. -/
theorem Lasting.perform (h : Lasting I) (hconnect : Maintains I connect)
    (hclose : Maintains I close) (operation : Operation) (s : Session τ) (hs : I s) :
    I (operation.perform s).2 := by
  by_cases hoperation : operation = .connect
  · rw [hoperation]
    exact report_of_maintains hconnect _ hs
  · exact h.perform_of_ne_connect hclose hoperation s hs

end Operations

end SqlWire.Session
