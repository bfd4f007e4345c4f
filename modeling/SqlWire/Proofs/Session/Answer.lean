import SqlWire.Proofs.Session.Notices
import SqlWire.Proofs.Session.Rectangular

/-!
# The first packet of an answer

A query is asked, and then it is settled what the first packet of the answer means:
it confirms the statement, refuses it or announces a result set (`execute_eq`). Only
asking has to do with the transport, so what has been delivered to `execute` is that
packet (`ends_ask_turns`). Of a confirmation all is kept, and of nothing else
anything that a statement leaves (`ends_settle`).
-/

set_option autoImplicit false

namespace SqlWire

open SqlWire.Action Turn

/-- What an outcome leaves of some numbers: those of the confirmation, which is read
from the payload, or the same as before where a result set is announced. -/
def QueryOutcome.Leaves (payload : Bytes) (before after : Counters) : QueryOutcome → Prop
  | .done reply => Notice.ofReply? payload = some (.ok reply) ∧ after = before.keep (.ok reply)
  | .resultSet _ => after = before

namespace Session

variable {τ : Type} {s : Session τ} {packet : Packet} {sql : Bytes} {received : List Bytes}
  {counters : Counters}

/-- Makes of the first packet of an answer what it says: a confirmation, a refusal,
or the announcement of so many columns. It is the part of `execute` behind the last
byte that is read. -/
def settle (sql : Bytes) (packet : Packet) : SessionM τ QueryOutcome := do
  match packet.kind with
  | .ok =>
    let reply ← decodeOk packet
    recordOk reply
    modify fun s => { s with columnCount := 0 }
    return .done reply
  | .error =>
    let reply ← decodeErr packet
    note (.queryFailed reply)
    throw (refusal reply (some sql))
  | .eof | .data =>
    match announcedColumns packet.payload with
    | some columnCount =>
      modify fun s => { s with columnCount }
      note (.resultSet columnCount)
      return .resultSet columnCount
    | none => throw (.breachIn "Invalid result set header" packet.payload)

/-- The session after a statement without rows has been confirmed: four numbers are
kept, and no columns are announced. -/
def concluded (reply : OkReply) (s : Session τ) : Session τ :=
  { s with
    affectedRows := reply.affectedRows
    lastInsertId := reply.lastInsertId
    statusFlags := reply.statusFlags
    warnings := reply.warnings
    columnCount := 0 }

/-- A confirmation that can be read is kept whole, and nothing of one that cannot. -/
theorem run_settle_of_kind_ok (hkind : packet.kind = .ok) :
    (settle sql packet).run s
      = match OkReply.read.run? packet.payload with
        | some reply => .ok (.done reply) (s.concluded reply)
        | none => .error (.breachIn "Invalid OK packet" packet.payload) s := by
  simp only [settle, hkind, decodeOk, decode, EStateM.run_bind]
  cases OkReply.read.run? packet.payload with
  | none => rfl
  | some reply => rfl

/-- An empty packet announces nothing. It is not even of a kind that says so, since
there is no byte to tell a kind by. -/
theorem run_settle_nil (sequence : UInt8) :
    (settle sql ⟨sequence, []⟩).run s
      = .error (.breachIn "Invalid result set header" []) s :=
  rfl

/-- What an answer comes to is no business of the transport. So what the transport
has delivered and what it has cost are settled when the answer has been received. -/
theorem maintains_settle {J : τ → Prop} :
    Maintains (fun s : Session τ => J s.channel.transport) (settle sql packet) := by
  -- Events are all that is done on the channel here, and they leave the transport.
  have hnote (event : Event) :
      Maintains (fun s : Session τ => J s.channel.transport) (note event) :=
    maintains_onChannel_transport (Channel.maintains_note event)
  unfold settle
  cases packet.kind with
  | ok =>
    refine .bind (maintains_decode _ _ _ _) ?_
    intro reply
    refine .bind (maintains_modify fun _ hs => hs) ?_
    intro _
    refine .bind (maintains_modify fun _ hs => hs) ?_
    intro _
    exact maintains_pure _
  | error =>
    refine .bind (maintains_decode _ _ _ _) ?_
    intro reply
    refine .bind (hnote _) ?_
    intro _
    exact maintains_throw _
  | eof | data =>
    dsimp only
    split
    case h_1 columnCount _ =>
      refine .bind (maintains_modify fun _ hs => hs) ?_
      intro _
      refine .bind (hnote _) ?_
      intro _
      exact maintains_pure _
    case h_2 => exact maintains_throw _

/-- What a statement leaves is what its confirmation says, and any other answer
leaves that as it was. -/
theorem Standing.ends_settle (h : Standing received counters s) :
    Ends (settle sql packet) s
      (fun outcome s' => s'.inbox = received
        ∧ outcome.Leaves packet.payload counters s'.counters)
      (fun _ s' => Standing received counters s') := by
  cases hkind : packet.kind with
  | ok =>
    rw [Ends, run_settle_of_kind_ok hkind]
    cases hread : OkReply.read.run? packet.payload with
    | some reply => exact ⟨h.inbox, Notice.of?_of_read hkind hread, rfl⟩
    | none => exact h
  | error =>
    rw [settle, hkind, ends_bind]
    refine (maintains_decode _ _ _ packet s h).mono ?_ (fun _ _ h => h)
    intro reply s₁ h₁
    rw [ends_bind]
    have harrival : (Event.queryFailed reply).arrival? = none := rfl
    exact (maintains_standing_note harrival s₁ h₁).mono (fun _ _ h => h) (fun _ _ h => h)
  | eof | data =>
    rw [settle, hkind]
    dsimp only
    split
    case h_1 columnCount _ =>
      -- The number of columns is kept, which is none of the four numbers.
      rw [ends_bind, ends_modify, ends_bind]
      refine Ends.mono (maintains_standing_note rfl _ ⟨h.inbox, h.counters⟩) ?_ (fun _ _ h => h)
      intro _ _ h
      exact ⟨h.inbox, h.counters⟩
    case h_2 => exact h

variable [Transport τ]

/-- A query is asked where the session admits it, and its answer settled. This cuts
`execute` into the part that needs the transport and the part that does not. -/
theorem execute_eq (sql : Bytes) :
    execute (τ := τ) sql = (do
      requireReady
      let config := (← get).config
      Action.ensure (config.exceedsLimit sql.length = false)
        (tooLarge sql.length config.maxQuerySize.toNat)
      settle sql (← ask sql)) := by
  simp only [execute, ask, bind_assoc]
  rfl

/-- Where a session admits a query, executing it is asking and settling. What is
asked and what is settled can then be followed apart. -/
theorem run_execute_of_admits (h : s.Admits sql) :
    (execute sql).run s = (ask sql >>= settle sql).run s := by
  simp only [execute_eq, requireReady, EStateM.run_bind, EStateM.run_get, run_ensure, if_pos h.ready,
    if_pos h.limit]

/-- A session that does not admit a query leaves everything as it is. Either test
may be the one that refuses, and nothing has been done before the second. -/
theorem run_execute_of_not_admits (h : ¬ s.Admits sql) :
    ∃ e, (execute sql).run s = .error e s := by
  simp only [execute_eq, requireReady, EStateM.run_bind, EStateM.run_get, run_ensure]
  by_cases hready : s.state = .authenticated
  · have hlimit : ¬ s.config.exceedsLimit sql.length = false := by
      intro hlimit
      exact h ⟨hready, hlimit⟩
    rw [if_pos hready]
    simp only [if_neg hlimit]
    exact ⟨_, rfl⟩
  · rw [if_neg hready]
    exact ⟨_, rfl⟩

/-! ### Asking -/

/-- Only the answer is received, one packet. Where there is none, nothing has been
received. -/
theorem Standing.ends_ask (h : Standing received counters s) :
    Ends (ask sql) s (fun packet s' => Standing (received ++ [packet.payload]) counters s')
      (fun _ s' => Standing received counters s') := by
  rw [ask, ends_bind]
  refine (maintains_standing_startExchange s h).mono ?_ (fun _ _ h => h)
  intro _ s₁ h₁
  rw [ends_bind]
  refine (maintains_standing_send _ s₁ h₁).mono ?_ (fun _ _ h => h)
  intro _ s₂ h₂
  exact h₂.ends_receive

/-- The answer is heard behind the query, as the packet of number 1. Where there is
none, no such packet has been heard. -/
theorem ends_ask_turns {holds : List Turn → τ → Prop} (ht : Tally holds) {turns : List Turn}
    (hs : holds turns s.channel.transport) (sql : Bytes) :
    Ends (ask sql) s
      (fun packet s' => packet.sequence = 1 ∧ packet.payload.length < 0x1000000
        ∧ holds (turns ++ [.command (Command.query.payload sql)] ++ hear packet.frame)
          s'.channel.transport)
      (fun _ s' => holds turns s'.channel.transport
        ∨ ∃ bs, holds (turns ++ [.command (Command.query.payload sql)] ++ hear bs)
          s'.channel.transport ∧ Packet.Lacks 1 bs) := by
  have hstart : Ends startExchange s
      (fun _ s' => holds turns s'.channel.transport ∧ s'.channel.sequence = 0)
      (fun _ _ => False) := ⟨hs, rfl⟩
  refine hstart.bind_of_ok ?_
  intro _ s₁ h₁
  obtain ⟨hs₁, hsequence⟩ := h₁
  -- The query is said before anything of its answer can be heard, unless it is too long to be said.
  rw [send, onChannel, ends_bind, ends_focus]
  refine (ht.ends_send hs₁ _).mono ?_ ?_
  · intro _ c hc
    obtain ⟨-, hsaid, hnext⟩ := hc
    rw [hsequence] at hsaid hnext
    rw [receive, onChannel, ends_focus]
    refine (ht.ends_receive hsaid).mono ?_ ?_
    · intro packet c' hc'
      obtain ⟨hheard, hnumber, hlength, -⟩ := hc'
      exact ⟨hnumber.trans hnext, hlength, hheard⟩
    · intro e c' hc'
      obtain ⟨-, bs, hheard, hlacks⟩ := hc'
      rw [hnext] at hlacks
      exact .inr ⟨bs, hheard, hlacks⟩
  · intro e c hc
    obtain ⟨-, ⟨-, hkept⟩ | ⟨-, hsaid⟩⟩ := hc
    · -- A query too long for one packet is the one that is not said.
      exact .inl hkept
    · rw [hsequence] at hsaid
      refine .inr ⟨[], ?_, Packet.lacks_nil _⟩
      rwa [hear_nil, List.append_nil]

/-- What a statement leaves is what its confirmation says, which is all that has
been received. No other end of `execute` changes it. -/
theorem Standing.ends_execute_settled (h : Standing received counters s) (sql : Bytes) :
    Ends (execute sql) s
      (fun outcome s' => ∃ payload, s'.inbox = received ++ [payload]
        ∧ outcome.Leaves payload counters s'.counters)
      (fun _ s' => s'.counters = counters) := by
  by_cases hadmits : s.Admits sql
  · rw [Ends, run_execute_of_admits hadmits, ← Ends, ends_bind]
    refine h.ends_ask.mono ?_ (fun _ _ h => h.counters)
    intro packet s₁ h₁
    refine h₁.ends_settle.mono ?_ ?_
    · intro outcome s₂ h₂
      exact ⟨packet.payload, h₂⟩
    · intro e s₂ h₂
      exact h₂.counters
  · obtain ⟨e, hrun⟩ := run_execute_of_not_admits hadmits
    rw [Ends, hrun]
    exact h.counters

end Session

end SqlWire
