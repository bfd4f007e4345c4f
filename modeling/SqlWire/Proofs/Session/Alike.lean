import SqlWire.Proofs.Channel.Alike
import SqlWire.Proofs.Channel.Backlog
import SqlWire.Proofs.Session.Exchange
import SqlWire.Session.Description

/-!
# Sessions that are alike

Two sessions are alike if they are in the same state, over channels that are alike,
with configurations that differ in the password at most (`Session.Alike`,
`Session.Parallel`). Whatever else of their channels and passwords is compared is
left open, and so is how what they remember is related. Where they remember the
same, they report the same whatever is asked of them, as long as the logins do not
tell the passwords apart (`Parallel.run`). Opening asks less: what a session is due
and what it remembers are overwritten on the way, all but the number of announced
columns, which has to be the same before (`Parallel.agree_connect`).

Twins are sessions of one configuration that nothing but their transports tells
apart (`run_of_twin`).
-/

set_option autoImplicit false

namespace SqlWire.Session

open SqlWire.Action

section

variable {τ ρ : Type}

/-- The channels and the configurations are related, and so is what the sessions
remember; they are in one state. Each of the three relations is a parameter, as
different laws compare different things. -/
structure Alike (K : Channel τ → Channel ρ → Prop) (configs : Config → Config → Prop)
    (kept : Bookkeeping → Bookkeeping → Prop) (s : Session τ) (r : Session ρ) : Prop where
  channel : K s.channel r.channel
  config : configs s.config r.config
  state : s.state = r.state
  bookkeeping : kept s.bookkeeping r.bookkeeping

/-- The channels are over transports that behave alike, and no configurations are
related but those that differ in the password at most. Nothing a session does
depends on the password but its login. -/
structure Parallel [Transport τ] [Transport ρ] (related : τ → ρ → Prop)
    (K : Channel τ → Channel ρ → Prop) (configs : Config → Config → Prop) : Prop where
  transports : Bisimulation related
  channels : Channel.Parallel related K
  config : ∀ {c c' : Config}, configs c c' → ∃ password, c = { c' with password }

/-- Nothing tells the sessions apart but what their transports are underneath.
Configurations, numbers, events and all that is remembered are the same. -/
abbrev Twin (related : τ → ρ → Prop) : Session τ → Session ρ → Prop :=
  Alike (Channel.Alike related Eq) Eq Eq

/-- Twins are parallel whatever bisimulation their transports are related by, so the
laws about parallel sessions are laws about twins. -/
theorem parallel_twin [Transport τ] [Transport ρ] {related : τ → ρ → Prop}
    (hR : Bisimulation related) : Parallel related (Channel.Alike related Eq) Eq where
  transports := hR
  channels := Channel.parallel_alike
  config {_ c'} h := ⟨c'.password, h⟩

variable {related : τ → ρ → Prop} {K : Channel τ → Channel ρ → Prop}
  {configs : Config → Config → Prop} {kept : Bookkeeping → Bookkeeping → Prop} {s : Session τ}
  {r : Session ρ}

/-- What is done to channels that are alike is done to sessions over them. The
channels may be related differently afterwards, as they are by a new exchange. -/
theorem Alike.onChannel {K' : Channel τ → Channel ρ → Prop} {α : Type}
    {action : EStateM Error (Channel τ) α} {model : EStateM Error (Channel ρ) α}
    (h : Alike K configs kept s r) (hagree : Agree action model s.channel r.channel K' K') :
    Agree (onChannel action) (onChannel model) s r (Alike K' configs kept)
      (Alike K' configs kept) := by
  apply Agree.focus
  refine hagree.mono ?_ ?_
  · intro c d hc
    exact ⟨hc, h.config, h.state, h.bookkeeping⟩
  · intro c d hc
    exact ⟨hc, h.config, h.state, h.bookkeeping⟩

/-- An action that keeps the relation of channels keeps that of sessions. The rest
of the session is put back around the channel as it was. -/
theorem simulates_onChannel {α : Type} {action : EStateM Error (Channel τ) α}
    {model : EStateM Error (Channel ρ) α} (h : Simulates K action model) :
    Simulates (Alike K configs kept) (onChannel action) (onChannel model) := by
  intro s r hs
  exact hs.onChannel (h.agree hs.channel)

/-- Noting an event keeps it as well. -/
theorem simulates_note (hK : Channel.OverTransports related K) (event : Event) :
    Simulates (Alike K configs kept) (note event) (note event) :=
  simulates_onChannel (hK.simulates_note event)

/-- Both read the same out of a packet, or fail with the same complaint about it.
The sessions play no part in this. -/
theorem simulates_decode {same : Session τ → Session ρ → Prop} {α : Type} (reader : Reader α)
    (complaint : String) (packet : Packet) :
    Simulates same (decode reader complaint packet) (decode reader complaint packet) := by
  unfold decode
  split
  case h_1 => exact simulates_pure _
  case h_2 => exact simulates_throw _

/-- Both may be put into one state, which is the same for both from then on. -/
theorem simulates_state (state : SessionState) :
    Simulates (Alike K configs kept)
      (modify fun s => { s with state } : SessionM τ Unit) (modify fun r => { r with state }) := by
  apply simulates_modify
  intro s r h
  exact ⟨h.channel, h.config, rfl, h.bookkeeping⟩

/-! What is recorded in the bookkeeping of both sessions, they still have in common. -/

/-- A reply overwrites the same four entries in both, with what it says. They need
not have been the same before, but here they were. -/
theorem simulates_recordOk (reply : OkReply) :
    Simulates (Alike K configs Eq) (recordOk reply) (recordOk reply) := by
  apply simulates_modify
  intro s r h
  have hkept := congrArg (fun b : Bookkeeping => { b with
    affectedRows := reply.affectedRows
    lastInsertId := reply.lastInsertId
    statusFlags := reply.statusFlags
    warnings := reply.warnings }) h.bookkeeping
  exact ⟨h.channel, h.config, h.state, hkept⟩

/-- An end marker overwrites two of them. -/
theorem simulates_recordEof (reply : EofReply) :
    Simulates (Alike K configs Eq) (recordEof reply) (recordEof reply) := by
  apply simulates_modify
  intro s r h
  have hkept := congrArg (fun b : Bookkeeping => { b with
    warnings := reply.warnings
    statusFlags := reply.statusFlags }) h.bookkeeping
  exact ⟨h.channel, h.config, h.state, hkept⟩

/-- The number of columns is set to the same, as the announcement has it. -/
theorem simulates_columnCount (columnCount : Nat) :
    Simulates (Alike K configs Eq) (modify fun s => { s with columnCount } : SessionM τ Unit)
      (modify fun r => { r with columnCount }) := by
  apply simulates_modify
  intro s r h
  have hkept := congrArg (fun b : Bookkeeping => { b with columnCount }) h.bookkeeping
  exact ⟨h.channel, h.config, h.state, hkept⟩

/-- Both are authenticated or neither is, so a check of this ends alike. -/
theorem simulates_requireReady : Simulates (Alike K configs Eq) requireReady requireReady := by
  apply simulates_get_bind
  intro s r h
  rw [h.state]
  exact agree_ensure _ _ h h

/-- The sessions are alike, and the outputs beside them hold the same. It is the
relation for what is displayed while it is read. -/
structure BesideSame (K : Channel τ → Channel ρ → Prop) (configs : Config → Config → Prop)
    (x : Session τ × Sink) (y : Session ρ × Sink) : Prop where
  alike : Alike K configs Eq x.1 y.1
  sink : x.2 = y.2

/-- What is done to sessions that are alike is done beside equal outputs, which stay
as they are meanwhile. -/
theorem simulates_besideSink {α : Type} {action : SessionM τ α} {model : SessionM ρ α}
    (h : Simulates (Alike K configs Eq) action model) :
    Simulates (BesideSame K configs) (besideSink action) (besideSink model) := by
  intro x y hx
  apply Agree.focus
  refine (h.agree hx.alike).mono ?_ ?_
  · intro s r hs
    exact ⟨hs, hx.sink⟩
  · intro s r hs
    exact ⟨hs, hx.sink⟩

/-- A line is written to both outputs or to neither, for they have the same room
left. -/
theorem simulates_writeLine (text : String) :
    Simulates (BesideSame K configs) (writeLine text) (writeLine text) := by
  intro x y h
  apply Agree.focus
  rw [h.sink]
  apply Agree.adaptExcept
  -- It is one action on one output.
  rw [agree_iff]
  cases hrun : (Sink.write (Utf8.encode text ++ [0x0A])).run y.2 with
  | ok a k => exact .inl ⟨a, k, k, rfl, rfl, h.alike, rfl⟩
  | error e k => exact .inr ⟨e, k, k, rfl, rfl, h.alike, rfl⟩

end

/-! ### Commands -/

section

variable {τ ρ : Type} [Transport τ] [Transport ρ] {related : τ → ρ → Prop}
  {K : Channel τ → Channel ρ → Prop} {configs : Config → Config → Prop}
  {kept : Bookkeeping → Bookkeeping → Prop}

namespace Parallel

/-- A session's description does not tell its password. All that it is made of is
equal on both sides, but for the configuration, of which it shows everything else. -/
theorem describe_eq (h : Parallel related K configs) {s : Session τ} {r : Session ρ}
    (hs : Alike K configs Eq s r) : s.describe = r.describe := by
  obtain ⟨password, hconfig⟩ := h.config hs.config
  have hid : s.connectionId = r.connectionId := congrArg Bookkeeping.connectionId hs.bookkeeping
  unfold describe
  rw [hconfig]
  dsimp only
  rw [hs.state, hid]

/-- Sessions that are parallel note events alike. -/
theorem simulates_note (h : Parallel related K configs) (event : Event) :
    Simulates (Alike K configs kept) (note event) (note event) :=
  Session.simulates_note h.channels.toOverTransports event

/-- They begin exchanges alike: both numbers go back to zero. -/
theorem simulates_startExchange (h : Parallel related K configs) :
    Simulates (Alike K configs kept) startExchange startExchange := by
  apply simulates_onChannel
  apply simulates_modify
  intro c d hc
  exact h.channels.withSequence 0 hc

/-- They receive alike, the same packet or the same failure. This is where the
relation of the transports is used. -/
theorem simulates_receive (h : Parallel related K configs) :
    Simulates (Alike K configs kept) receive receive :=
  simulates_onChannel (h.channels.simulates_receive h.transports)

/-- They send alike, where the payload is one. Payloads that differ are the business
of whoever relates the logins. -/
theorem simulates_send (h : Parallel related K configs) (payload : Bytes) :
    Simulates (Alike K configs kept) (send payload) (send payload) :=
  simulates_onChannel (h.channels.simulates_send h.transports payload)

/-- They execute statements alike, and remember the same afterwards, whatever the
server answers. -/
theorem simulates_execute (h : Parallel related K configs) (sql : Bytes) :
    Simulates (Alike K configs Eq) (execute sql) (execute sql) := by
  apply Simulates.bind simulates_requireReady
  intro _
  apply simulates_get_bind
  intro s r hs
  obtain ⟨password, hconfig⟩ := h.config hs.config
  -- The limit is the same with either password.
  have hlimit : s.config.exceedsLimit sql.length = r.config.exceedsLimit sql.length := by
    rw [hconfig]
    rfl
  have hsize : s.config.maxQuerySize = r.config.maxQuerySize := by rw [hconfig]
  dsimp only
  rw [hlimit, hsize]
  refine Simulates.agree (.bind (simulates_ensure _ _) ?_) hs
  intro _
  apply Simulates.bind h.simulates_startExchange
  intro _
  apply Simulates.bind (h.simulates_send _)
  intro _
  apply Simulates.bind h.simulates_receive
  intro packet
  cases packet.kind with
  | ok =>
    apply Simulates.bind (simulates_decode _ _ _)
    intro reply
    apply Simulates.bind (simulates_recordOk reply)
    intro _
    refine .bind (simulates_columnCount 0) ?_
    intro _
    exact simulates_pure _
  | error =>
    apply Simulates.bind (simulates_decode _ _ _)
    intro reply
    refine .bind (h.simulates_note _) ?_
    intro _
    exact simulates_throw _
  | eof | data =>
    dsimp only
    split
    · apply Simulates.bind (simulates_columnCount _)
      intro _
      refine .bind (h.simulates_note _) ?_
      intro _
      exact simulates_pure _
    · exact simulates_throw _

/-- They ping alike, with the same checks before and the same reading of the answer. -/
theorem simulates_ping (h : Parallel related K configs) :
    Simulates (Alike K configs Eq) ping ping := by
  apply Simulates.bind simulates_requireReady
  intro _
  apply Simulates.bind h.simulates_startExchange
  intro _
  apply Simulates.bind (h.simulates_send _)
  intro _
  apply Simulates.bind h.simulates_receive
  intro packet
  cases packet.kind with
  | ok =>
    apply Simulates.bind (simulates_decode _ _ _)
    intro reply
    apply simulates_modify
    intro s r hs
    -- Of the confirmation the status is kept alone, in both bookkeepings.
    have hkept := congrArg (fun b : Bookkeeping => { b with
      statusFlags := reply.statusFlags }) hs.bookkeeping
    exact ⟨hs.channel, hs.config, hs.state, hkept⟩
  | error => exact .bind (simulates_decode _ _ _) fun reply => simulates_throw _
  | eof | data => exact simulates_throw _

/-- Both say goodbye or neither does, since the state decides and they have the
same. -/
theorem simulates_leave (h : Parallel related K configs) :
    Simulates (Alike K configs Eq) leave leave := by
  apply simulates_get_bind
  intro s r hs
  rw [hs.state]
  split
  · -- A failure of the farewell is an outcome, kept for the journal only.
    have hfarewell : Simulates (Alike K configs Eq)
        (startExchange >>= fun _ => send (Command.quit.payload []))
        (startExchange >>= fun _ => send (Command.quit.payload [])) :=
      .bind h.simulates_startExchange fun _ => h.simulates_send _
    refine Simulates.agree (.bind hfarewell.outcome ?_) hs
    intro result
    cases result with
    | ok => exact simulates_pure _
    | error e => exact h.simulates_note _
  · exact agree_pure _ hs

/-- They close alike. Whether the goodbye was delivered shows in the events of both. -/
theorem simulates_close (h : Parallel related K configs) :
    Simulates (Alike K configs Eq) close close := by
  apply Simulates.bind h.simulates_leave
  intro _
  refine .bind (simulates_modify fun s r hs => ?_) fun _ => h.simulates_note _
  -- The transports are related after closing as well, and the rest is reset in both.
  have hclosed := h.transports.close (h.channels.transport hs.channel)
  have hkept := congrArg (fun b : Bookkeeping => { b with columnCount := 0 }) hs.bookkeeping
  exact ⟨h.channels.withTransport hs.channel hclosed, hs.config, rfl, hkept⟩

/-! ### Reads -/

/-- A step that reads a packet and goes on with it comes to the same, if going on
does. -/
theorem simulates_untilEnd (h : Parallel related K configs) {α : Type}
    {content : Packet → SessionM τ (Option α)} {content' : Packet → SessionM ρ (Option α)}
    (hcontent : ∀ packet, Simulates (Alike K configs Eq) (content packet) (content' packet)) :
    Simulates (Alike K configs Eq) (untilEnd content) (untilEnd content') := by
  apply Simulates.bind h.simulates_receive
  intro packet
  cases packet.kind with
  | eof =>
    apply Simulates.bind (simulates_decode _ _ _)
    intro reply
    refine .bind (simulates_recordEof reply) ?_
    intro _
    exact simulates_pure _
  | error => exact .bind (simulates_decode _ _ _) fun reply => simulates_throw _
  | ok | data => exact hcontent packet

/-- They read fields alike: one packet, and the same made of it. -/
theorem simulates_nextField (h : Parallel related K configs) :
    Simulates (Alike K configs Eq) nextField nextField := by
  rw [nextField_eq, nextField_eq]
  refine h.simulates_untilEnd ?_
  intro packet
  split
  · exact simulates_pure _
  · exact simulates_throw _

/-- They read rows alike, since both remember the same number of columns. -/
theorem simulates_nextRow (h : Parallel related K configs) :
    Simulates (Alike K configs Eq) nextRow nextRow := by
  rw [nextRow_eq, nextRow_eq]
  refine h.simulates_untilEnd fun packet => simulates_get_bind ?_
  intro s r hs
  have hcount : s.columnCount = r.columnCount := congrArg Bookkeeping.columnCount hs.bookkeeping
  rw [hcount]
  exact agree_pure _ hs

/-- They read the columns of rows alike. The decoding is of the row and does not
look at the session. -/
theorem simulates_nextCells (h : Parallel related K configs) :
    Simulates (Alike K configs Eq) nextCells nextCells := by
  apply Simulates.bind h.simulates_nextRow
  intro row
  cases row with
  | none => exact simulates_pure _
  | some row =>
    dsimp only
    split
    · exact simulates_pure _
    · exact simulates_throw _

/-- They show rows alike, to outputs that hold the same before and after. -/
theorem simulates_showRow (h : Parallel related K configs) :
    Simulates (BesideSame K configs) showRow showRow := by
  apply Simulates.bind (simulates_besideSink h.simulates_nextCells)
  intro cells
  cases cells with
  | none => exact simulates_pure _
  | some cells => exact .bind (simulates_writeLine _) fun _ => simulates_pure _

end Parallel

end

/-! ### Loops and operations -/

section

variable {τ : Type} [FiniteTransport τ]

/-- The bytes that can still be read. They bound the rounds of the loops over
packets. -/
def backlog (s : Session τ) : Nat :=
  FiniteTransport.backlog s.channel.transport

/-- A step that reads a packet uses some of them up. Going on with the packet may
not bring any back. -/
theorem usesUp_untilEnd {α : Type} {content : Packet → SessionM τ (Option α)}
    (hcontent : ∀ packet bound, Maintains (fun s => s.backlog < bound) (content packet)) :
    UsesUp backlog (untilEnd content) := by
  apply UsesUp.bind
  · intro s
    rw [receive, onChannel, ends_focus]
    exact Channel.ends_receive_backlog s.channel
  -- The packet has been paid for, so what follows only has to keep below the bound.
  intro packet bound
  cases packet.kind with
  | eof =>
    refine .bind (maintains_decode _ _ _ _) ?_
    intro reply
    refine .bind (maintains_modify fun _ hs => hs) ?_
    intro _
    exact maintains_pure _
  | error => exact .bind (maintains_decode _ _ _ _) fun reply => maintains_throw _
  | ok | data => exact hcontent packet bound

/-- Reading a field uses up the bytes of its packet, which are four at least. -/
theorem usesUp_nextField : UsesUp (backlog (τ := τ)) nextField := by
  rw [nextField_eq]
  refine usesUp_untilEnd ?_
  intro packet bound
  split
  · exact maintains_pure _
  · exact maintains_throw _

/-- So does reading a row, whose columns are decoded without a further packet. -/
theorem usesUp_nextCells : UsesUp (backlog (τ := τ)) nextCells := by
  apply UsesUp.bind
  · rw [nextRow_eq]
    refine usesUp_untilEnd ?_
    intro packet bound
    refine .bind maintains_get ?_
    intro s
    exact maintains_pure _
  intro row bound
  cases row with
  | none => exact maintains_pure _
  | some row =>
    dsimp only
    split
    · exact maintains_pure _
    · exact maintains_throw _

/-- So does showing one, since writing it out reads nothing. -/
theorem usesUp_showRow : UsesUp (fun x : Session τ × Sink => x.1.backlog) showRow := by
  apply UsesUp.bind
  · intro x
    rw [besideSink, ends_focus]
    exact usesUp_nextCells x.1
  intro cells bound
  cases cells with
  | none => exact maintains_pure _
  | some cells =>
    refine .bind (maintains_writeLine (fun s => s.backlog < bound) _) ?_
    intro _
    exact maintains_pure _

end

section

variable {τ ρ : Type} [FiniteTransport τ] [FiniteTransport ρ] {related : τ → ρ → Prop}
  {K : Channel τ → Channel ρ → Prop} {configs : Config → Config → Prop}

namespace Parallel

/-- All fields are read alike. The two loops have different bounds, as the
transports may have different backlogs, but neither runs out of its bound. -/
theorem simulates_readFields (h : Parallel related K configs) :
    Simulates (Alike K configs Eq) readFields readFields := by
  apply simulates_get_bind
  intro s r hs
  exact h.simulates_nextField.collect usesUp_nextField usesUp_nextField hs (Nat.lt_succ_self _)
    (Nat.lt_succ_self _) []

/-- So are all rows, for the same reason: neither session runs out of rounds before
it runs out of bytes. -/
theorem simulates_readRows (h : Parallel related K configs) :
    Simulates (Alike K configs Eq) readRows readRows := by
  apply simulates_get_bind
  intro s r hs
  exact h.simulates_nextCells.collect usesUp_nextCells usesUp_nextCells hs (Nat.lt_succ_self _)
    (Nat.lt_succ_self _) []

/-- Queries come to the same: the command, the fields, the check of their number and
the rows. -/
theorem simulates_query (h : Parallel related K configs) (sql : String) :
    Simulates (Alike K configs Eq) (query sql) (query sql) := by
  apply Simulates.bind (h.simulates_execute _)
  intro outcome
  cases outcome with
  | done reply => exact simulates_pure _
  | resultSet columnCount =>
    apply Simulates.bind h.simulates_readFields
    intro fields
    apply Simulates.bind (simulates_ensure _ _)
    intro _
    refine .bind h.simulates_readRows ?_
    intro rows
    exact simulates_pure _

/-- So does the display, line for line, and it stops at the same place where it
fails. -/
theorem simulates_showResults (h : Parallel related K configs) :
    Simulates (BesideSame K configs) showResults showResults := by
  apply Simulates.bind (simulates_besideSink h.simulates_readFields)
  intro fields
  apply Simulates.bind (simulates_writeLine _)
  intro _
  apply simulates_get_bind
  intro x y hx
  have hloop := h.simulates_showRow.collect usesUp_showRow usesUp_showRow hx
    (Nat.lt_succ_self _) (Nat.lt_succ_self _) []
  refine hloop.bind ?_
  intro rows x' y' hx'
  exact Simulates.agree (.bind (simulates_writeLine _) fun _ => simulates_pure _) hx'

end Parallel

end

/-! ### Opening -/

section

variable {τ ρ : Type} [Transport τ] [Transport ρ] {related : τ → ρ → Prop}
  {K K₀ : Channel τ → Channel ρ → Prop} {configs : Config → Config → Prop}
  {kept : Bookkeeping → Bookkeeping → Prop} {s : Session τ} {r : Session ρ}

namespace Parallel

/-- Neither what is due nor what is remembered matters to the attempts to connect.
Each attempt has the same outcome on both, and so the same events are noted. -/
theorem simulates_openTransport (h : Parallel related K configs)
    (h₀ : Channel.OverTransports related K₀) (remaining made : Nat) (last : Option IoError) :
    Simulates (Alike K₀ configs kept) (openTransport remaining made last)
      (openTransport remaining made last) := by
  induction remaining generalizing made last with
  | zero =>
    apply simulates_get_bind
    intro s r hs
    obtain ⟨password, hconfig⟩ := h.config hs.config
    -- The error names host and port, which do not depend on the password.
    have herror : unreachable s.config made last = unreachable r.config made last := by
      rw [hconfig]
      rfl
    rw [herror]
    exact agree_throw _ hs
  | succ remaining ih =>
    apply simulates_get_bind
    intro s r hs
    obtain ⟨password, hconfig⟩ := h.config hs.config
    dsimp only
    rw [hconfig]
    refine Simulates.agree (.bind (Session.simulates_note h₀ _) ?_) hs
    intro _
    apply Simulates.bind
    · exact simulates_onChannel (h₀.simulates_onTransport (h.transports.connect _ _).outcome)
    intro result
    -- Both have been let in, or both try again with the failure that they share.
    cases result with
    | ok => exact simulates_pure _
    | error e =>
      refine .bind (Session.simulates_note h₀ _) ?_
      intro _
      exact ih _ _

/-- The first packet of the login is the first of an exchange. From there on both
are due the same number, whatever was due before. -/
theorem agree_readGreeting (h : Parallel related K configs) (hopens : Channel.Opens related K₀ K)
    (hs : Alike K₀ configs kept s r) :
    Agree readGreeting readGreeting s r (Alike K configs kept) (Alike K configs kept) := by
  -- Starting the exchange resets both numbers, from here on the channels are alike.
  have hstart : Agree startExchange startExchange s r (Alike K configs kept)
      (Alike K configs kept) := hs.onChannel (agree_modify (hopens.reset hs.channel))
  refine hstart.bind ?_
  intro _ s₁ r₁ h₁
  refine Simulates.agree (.bind h.simulates_receive ?_) h₁
  intro packet
  split
  · apply Simulates.bind (simulates_state .greeted)
    intro _
    refine .bind (h.simulates_note _) ?_
    intro _
    exact simulates_pure _
  · exact simulates_throw _

/-- With one password the logins are the same. Sessions with different ones have to
supply a law of their own in its place. -/
theorem simulates_sendLogin (h : Parallel related K Eq) (greeting : Greeting) :
    Simulates (Alike K Eq kept) (sendLogin greeting) (sendLogin greeting) := by
  apply simulates_get_bind
  intro s r hs
  dsimp only
  rw [hs.config]
  refine Simulates.agree (.bind (h.simulates_send _) ?_) hs
  intro _
  refine .bind (simulates_state .loginSent) ?_
  intro _
  exact h.simulates_note _

/-- An accepted login overwrites all that is remembered but the number of columns.
Where the login is not accepted, what is remembered stays related as it was. -/
theorem agree_readVerdict (h : Parallel related K configs)
    (hkept : ∀ b b', kept b b' → b.columnCount = b'.columnCount) (greeting : Greeting)
    (hs : Alike K configs kept s r) :
    Agree (readVerdict greeting) (readVerdict greeting) s r (Alike K configs Eq)
      (Alike K configs kept) := by
  refine (h.simulates_receive.agree hs).bind ?_
  intro packet s₁ r₁ h₁
  cases packet.kind with
  | ok =>
    refine ((simulates_decode _ _ _).agree h₁).bind ?_
    intro reply s₂ r₂ h₂
    -- What the reply says is the same now, and the greeting will give the rest.
    have hrecord : Agree (recordOk reply) (recordOk reply) s₂ r₂
        (Alike K configs fun b b' => ∀ serverVersion connectionId,
          { b with serverVersion, connectionId } = { b' with serverVersion, connectionId })
        (Alike K configs kept) := by
      refine agree_modify ⟨h₂.channel, h₂.config, h₂.state, ?_⟩
      intro _ _
      have hcount : s₂.columnCount = r₂.columnCount := hkept _ _ h₂.bookkeeping
      simp only [bookkeeping, hcount]
    refine hrecord.bind ?_
    intro _ s₃ r₃ h₃
    refine (agree_modify (R := Alike K configs Eq) ?_).bind ?_
    · exact ⟨h₃.channel, h₃.config, rfl, h₃.bookkeeping _ _⟩
    · intro _ s₄ r₄ h₄
      apply Agree.get_bind
      obtain ⟨password, hconfig⟩ := h.config h₄.config
      rw [hconfig]
      -- Noting cannot fail.
      refine agree_of_run_ok rfl rfl ?_
      exact ⟨h.channels.noted _ h₄.channel, h₄.config, h₄.state, h₄.bookkeeping⟩
  | error =>
    refine ((simulates_decode _ _ _).agree h₁).bind ?_
    intro reply s₂ r₂ h₂
    refine ((simulates_state .rejected).agree h₂).bind ?_
    intro _ s₃ r₃ h₃
    refine ((h.simulates_note _).agree h₃).bind ?_
    intro _ s₄ r₄ h₄
    exact agree_throw _ h₄
  | eof | data => exact agree_throw _ h₁

/-- A login makes sessions remember the same, if it is accepted; otherwise they are
related as before. -/
theorem agree_login (h : Parallel related K configs) (hopens : Channel.Opens related K₀ K)
    (hkept : ∀ b b', kept b b' → b.columnCount = b'.columnCount)
    (hlogin : ∀ greeting,
      Simulates (Alike K configs kept) (sendLogin greeting) (sendLogin greeting))
    (hs : Alike K₀ configs kept s r) :
    Agree login login s r (Alike K configs Eq) (Alike K₀ configs kept) := by
  have hagree : Agree login login s r (Alike K configs Eq) (Alike K configs kept) := by
    refine (h.agree_readGreeting hopens hs).bind ?_
    intro greeting s₁ r₁ h₁
    refine ((hlogin greeting).agree h₁).bind ?_
    intro _ s₂ r₂ h₂
    exact h.agree_readVerdict hkept greeting h₂
  refine hagree.mono (fun _ _ h => h) ?_
  intro s' r' h'
  exact ⟨hopens.weaken h'.channel, h'.config, h'.state, h'.bookkeeping⟩

/-- Sessions that have announced the same number of columns open alike, if they log
in alike: both with success, after which they remember the same, or both with one
error, which leaves them as much alike as before. -/
theorem agree_connect (h : Parallel related K configs) (hopens : Channel.Opens related K₀ K)
    (hkept : ∀ b b', kept b b' → b.columnCount = b'.columnCount)
    (hlogin : ∀ greeting,
      Simulates (Alike K configs kept) (sendLogin greeting) (sendLogin greeting))
    (hs : Alike K₀ configs kept s r) :
    Agree connect connect s r (Alike K configs Eq) (Alike K₀ configs kept) := by
  obtain ⟨password, hconfig⟩ := h.config hs.config
  have hvalid : s.config.validate = r.config.validate := by
    rw [hconfig]
    rfl
  have hattempts : s.config.connectAttempts = r.config.connectAttempts := by rw [hconfig]
  apply Agree.get_bind
  rw [hvalid, hattempts, h.transports.isConnected (hopens.transport hs.channel)]
  refine (agree_ensure (R := Alike K₀ configs kept) _ _ hs hs).bind ?_
  intro _ s₁ r₁ h₁
  refine (agree_ofExcept _ h₁ h₁).bind ?_
  intro _ s₂ r₂ h₂
  refine ((simulates_state .connecting).agree h₂).bind ?_
  intro _ s₃ r₃ h₃
  have htransport := (h.simulates_openTransport hopens.toOverTransports
    r.config.connectAttempts.toNat 0 none).agree h₃
  have hopen := htransport.bind fun _ s₄ r₄ h₄ => h.agree_login hopens hkept hlogin h₄
  -- A failure of either part closes the transports, and the error is thrown again.
  refine hopen.tryCatch ?_
  intro e s₄ r₄ h₄
  refine (agree_modify (R := Alike K₀ configs kept) ?_).bind fun _ s₅ r₅ h₅ => agree_throw _ h₅
  have hclosed := h.transports.close (hopens.transport h₄.channel)
  refine ⟨hopens.withTransport h₄.channel hclosed, h₄.config, ?_, h₄.bookkeeping⟩
  show (if s₄.state = .rejected then _ else _) = if r₄.state = .rejected then _ else _
  rw [h₄.state]

end Parallel

end

/-! ### Runs -/

section

variable {τ ρ : Type} {R : Session τ → Session ρ → Prop} {s : Session τ} {r : Session ρ}

/-- Actions that agree are reported alike. Which relation the sessions are left in
depends on whether there is an answer. -/
theorem report_of_agree {α : Type} {action : SessionM τ α} {model : SessionM ρ α}
    {ok bad : Session τ → Session ρ → Prop} (answer : α → Answer)
    (h : Agree action model s r ok bad) :
    (Operation.report answer action s).1 = (Operation.report answer model r).1
      ∧ if (Operation.report answer model r).1.answer?.isSome
        then ok (Operation.report answer action s).2 (Operation.report answer model r).2
        else bad (Operation.report answer action s).2 (Operation.report answer model r).2 := by
  obtain ⟨a, s', r', hrun, hmodel, h'⟩ | ⟨e, s', r', hrun, hmodel, h'⟩ := agree_iff.mp h
  · rw [Operation.report, Operation.report, hrun, hmodel]
    exact ⟨rfl, h'⟩
  · rw [Operation.report, Operation.report, hrun, hmodel]
    exact ⟨rfl, h'⟩

/-- Where one relation is kept in both cases, it is kept by the operation, and the
reports are the same. -/
theorem report_of_simulates {α : Type} {action : SessionM τ α} {model : SessionM ρ α}
    (answer : α → Answer) (hagree : Simulates R action model) (hs : R s r) :
    (Operation.report answer action s).1 = (Operation.report answer model r).1
      ∧ R (Operation.report answer action s).2 (Operation.report answer model r).2 := by
  obtain ⟨hreport, hends⟩ := report_of_agree answer (hagree.agree hs)
  have halike : R (Operation.report answer action s).2 (Operation.report answer model r).2 := by
    split at hends
    case isTrue => exact hends
    case isFalse => exact hends
  exact ⟨hreport, halike⟩

variable [FiniteTransport τ] [FiniteTransport ρ] {related : τ → ρ → Prop}
  {K : Channel τ → Channel ρ → Prop} {configs : Config → Config → Prop}

namespace Parallel

/-- What is asked of both sessions comes to the same and leaves them alike, if they
log in alike. -/
theorem perform (h : Parallel related K configs)
    (hlogin : ∀ greeting, Simulates (Alike K configs Eq) (sendLogin greeting) (sendLogin greeting))
    (operation : Operation) (hs : Alike K configs Eq s r) :
    (operation.perform s).1 = (operation.perform r).1
      ∧ Alike K configs Eq (operation.perform s).2 (operation.perform r).2 := by
  cases operation with
  | connect =>
    refine report_of_simulates _ ?_ hs
    intro s r hs
    exact h.agree_connect h.channels.opens (fun _ _ => congrArg Bookkeeping.columnCount) hlogin hs
  | execute sql => exact report_of_simulates _ (h.simulates_execute sql) hs
  | query sql => exact report_of_simulates _ (h.simulates_query sql) hs
  | nextField => exact report_of_simulates _ h.simulates_nextField hs
  | nextRow => exact report_of_simulates _ h.simulates_nextRow hs
  | showResults capacity =>
    have hagree := h.simulates_showResults.agree
      (⟨hs, rfl⟩ : BesideSame K configs (s, { capacity }) (r, { capacity }))
    obtain ⟨rows, ⟨s', k⟩, ⟨r', k'⟩, hrun, hmodel, halike, hsink⟩
      | ⟨e, ⟨s', k⟩, ⟨r', k'⟩, hrun, hmodel, halike, hsink⟩ := agree_iff.mp hagree
    -- Both displays succeed or both fail, and the outputs are equal in either case.
    all_goals
      obtain rfl : k = k' := hsink
      unfold Operation.perform
      dsimp only
      rw [hrun, hmodel]
      exact ⟨rfl, halike⟩
  | ping => exact report_of_simulates _ h.simulates_ping hs
  | close => exact report_of_simulates _ h.simulates_close hs

/-- So do runs. The induction is on the operations, and the relation that one leaves
is what the next begins with. -/
theorem run (h : Parallel related K configs)
    (hlogin : ∀ greeting, Simulates (Alike K configs Eq) (sendLogin greeting) (sendLogin greeting))
    (operations : List Operation) (hs : Alike K configs Eq s r) :
    (Session.run operations s).1 = (Session.run operations r).1
      ∧ Alike K configs Eq (Session.run operations s).2 (Session.run operations r).2 := by
  induction operations generalizing s r with
  | nil => exact ⟨rfl, hs⟩
  | cons operation rest ih =>
    obtain ⟨hreport, halike⟩ := h.perform hlogin operation hs
    obtain ⟨hreports, hlast⟩ := ih halike
    refine ⟨?_, hlast⟩
    show (operation.perform s).1 :: (Session.run rest (operation.perform s).2).1
      = (operation.perform r).1 :: (Session.run rest (operation.perform r).2).1
    rw [hreport, hreports]

end Parallel

/-- Runs of twins come to the same, and they stay twins. So two sessions that have
once become twins cannot be told apart by what is done with them. -/
theorem run_of_twin (hR : Bisimulation related) (operations : List Operation)
    (hs : Twin related s r) :
    (run operations s).1 = (run operations r).1
      ∧ Twin related (run operations s).2 (run operations r).2 :=
  (parallel_twin hR).run (parallel_twin hR).simulates_sendLogin operations hs

end

end SqlWire.Session
