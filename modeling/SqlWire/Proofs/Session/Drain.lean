import SqlWire.Proofs.Channel.Budget
import SqlWire.Proofs.Session.Alike
import SqlWire.Proofs.Session.Answer
import SqlWire.Transport.Scripted

/-!
# Reading to the end

A result set is read up to its end markers, and how many packets come before them is
up to the server. On a transport that can deliver only so many bytes the reading
ends all the same: each round uses some of them up, so the loops end as their rounds
do and not for want of fuel (`ends_readFields_rounds`, `ends_readRows_rounds`,
`ends_showRows_rounds`).

What the reading of a whole result may cost follows from what a packet costs.
`Draining` says of a session that each byte delivered since a point in time has cost
one read and one wait at the most, and `Drained` what is left of this after a
failure. `read_within_budget` gathers all of it, from a single packet on.
-/

set_option autoImplicit false

namespace SqlWire.Session

open SqlWire.Action Recorded

/-! ### Rounds -/

section

variable {τ : Type} [FiniteTransport τ]

/-- Reading the fields ends, with all of them or with the failure of a round. The
bound on the rounds is one more than the bytes that can still be read, and each
round uses up a byte at least. -/
theorem ends_readFields_rounds (s : Session τ) :
    Ends readFields s (fun fields s' => Yields nextField s fields s')
      (fun e s' => Fails nextField s e s') := by
  rw [readFields, ends_bind, ends_get]
  exact ends_collect_rounds usesUp_nextField (Nat.lt_succ_self _)

/-- So does reading the rows, with the rounds of its own step. -/
theorem ends_readRows_rounds (s : Session τ) :
    Ends readRows s (fun rows s' => Yields nextCells s rows s')
      (fun e s' => Fails nextCells s e s') := by
  rw [readRows, ends_bind, ends_get]
  exact ends_collect_rounds usesUp_nextCells (Nat.lt_succ_self _)

/-- So does showing them, where the output may fail as well. A round that fails is
the last one. -/
theorem ends_showRows_rounds (x : Session τ × Sink) :
    Ends (collect showRow x.1.packetBound []) x (fun rows x' => Yields showRow x rows x')
      (fun e x' => Fails showRow x e x') :=
  ends_collect_rounds usesUp_showRow (Nat.lt_succ_self _)

/-- Nothing that is read or executed changes the poll budget, so one number bounds
every byte of a result set. -/
theorem lasting_readAttempts {τ : Type} [Transport τ] (attempts : Nat) :
    Lasting fun s : Session τ => s.channel.readAttempts = attempts where
  toSteady := Sees.steady (fun _ _ hc hs => hc.trans hs) Channel.kept_readAttempts
    fun _ _ _ _ _ hs => hs
  columnCount _ _ _ hs := hs

end

/-! ### Costs -/

variable {τ : Type} [FiniteTransport τ] {attempts : Nat} {start : Recorded τ}

/-- Since the start each byte delivered has cost one read and one wait at the most,
and as many bytes less can still be read. The second half is what bounds the bytes
of a whole result. -/
def Paid (attempts : Nat) (start t : Recorded τ) : Prop :=
  ∃ bs : Bytes, Spent start bs bs.length (attempts * bs.length) t
    ∧ bs.length + FiniteTransport.backlog t ≤ FiniteTransport.backlog start

/-- The session reads on, and all that it has read since the start is paid for. This
is the invariant of the loops. -/
structure Draining (attempts : Nat) (start : Recorded τ) (s : Session (Recorded τ)) : Prop where
  readAttempts : s.channel.readAttempts = attempts
  paid : Paid attempts start s.channel.transport

/-- Since the start no more bytes have been read than could be, up to one that was
read in vain, and each after one wait at the most. This is what a failure leaves of
`Draining`, and all that is claimed in the end. -/
def Drained (attempts : Nat) (start : Recorded τ) (s : Session (Recorded τ)) : Prop :=
  ∃ log, Since start s.channel.transport log
    ∧ reads log ≤ FiniteTransport.backlog start + 1
    ∧ polls log ≤ attempts * (FiniteTransport.backlog start + 1)

/-- What has been spent on so many bytes is within the bound for all that could be
read. -/
theorem drained_of_spent {s : Session (Recorded τ)} {bs : Bytes} {n : Nat}
    (h : Spent start bs n (attempts * n) s.channel.transport)
    (hle : n ≤ FiniteTransport.backlog start + 1) : Drained attempts start s := by
  obtain ⟨log, hsince, -, hreads, hpolls⟩ := h
  have hproduct : attempts * n ≤ attempts * (FiniteTransport.backlog start + 1) :=
    Nat.mul_le_mul_left attempts hle
  exact ⟨log, hsince, Nat.le_trans hreads hle, Nat.le_trans hpolls hproduct⟩

/-- What is paid for is within that bound, since the bytes delivered could be read
at the start. -/
theorem Paid.drained {s : Session (Recorded τ)} (h : Paid attempts start s.channel.transport) :
    Drained attempts start s := by
  obtain ⟨bs, hspent, hbacklog⟩ := h
  exact drained_of_spent hspent (by omega)

/-- So a session that reads on is within it at any time, and may be broken off where
it is. -/
theorem Draining.drained {s : Session (Recorded τ)} (h : Draining attempts start s) :
    Drained attempts start s :=
  h.paid.drained

/-- A packet is one more part of what is read, and a read that fails is the end of
it. Each of the three ways to fail has cost a read and a wait more than was
delivered at the most. -/
theorem sustains_receive : Sustains (Draining attempts start) (Drained attempts start) receive := by
  rintro s ⟨rfl, bs, hspent, hbacklog⟩
  -- Two records of one read: what its calls have cost, and what they leave to be read.
  have hcosts := Channel.rounds_spent s.channel.readAttempts start
  have hleaves := Channel.account_backlog (τ := Recorded τ) s.channel.readAttempts
    (FiniteTransport.backlog start)
  have hrounds := (hcosts.and hleaves.rounds).after bs
  have hbudget := Channel.kept_readAttempts.receive _ s.channel rfl
  rw [receive, onChannel, ends_focus]
  refine ((hrounds.ends_receive ?_).and hbudget).mono ?_ ?_
  · rw [List.append_nil]
    exact ⟨hspent, hbacklog⟩
  · intro p c hp
    obtain ⟨⟨hpaid, -⟩, hattempts⟩ := hp
    exact ⟨hattempts, _, hpaid⟩
  · intro e c he
    obtain ⟨hinterrupted, -⟩ := he
    -- Which number is due then does not matter.
    generalize c.sequence = next at hinterrupted
    cases hinterrupted with
    | inHeader stopped =>
      obtain ⟨hspent, hleft⟩ := stopped
      exact drained_of_spent hspent (Nat.succ_le_succ hleft)
    | misnumbered delivered =>
      obtain ⟨hspent, hleft⟩ := delivered
      exact drained_of_spent hspent (by omega)
    | inPayload stopped =>
      obtain ⟨hspent, hleft⟩ := stopped
      exact drained_of_spent hspent (Nat.succ_le_succ hleft)

/-- A step that reads a packet and goes on with it costs what the packet costs,
since going on reads nothing. -/
theorem sustains_untilEnd {α : Type} {content : Packet → SessionM (Recorded τ) (Option α)}
    (hcontent : ∀ packet, Maintains (Draining attempts start) (content packet)) :
    Sustains (Draining attempts start) (Drained attempts start) (untilEnd content) := by
  apply Sustains.bind sustains_receive
  intro packet
  refine .of_maintains ?_ fun _ h => h.drained
  cases packet.kind with
  | eof =>
    refine .bind (maintains_decode _ _ _ _) ?_
    intro reply
    refine .bind (maintains_modify fun _ h => ⟨h.readAttempts, h.paid⟩) ?_
    intro _
    exact maintains_pure _
  | error => exact .bind (maintains_decode _ _ _ _) fun reply => maintains_throw _
  | ok | data => exact hcontent packet

/-- Reading a field costs one packet, and decoding it costs nothing. -/
theorem sustains_nextField :
    Sustains (Draining attempts start) (Drained attempts start) nextField := by
  rw [nextField_eq]
  refine sustains_untilEnd ?_
  intro packet
  split
  · exact maintains_pure _
  · exact maintains_throw _

/-- So does reading a row with its columns, for the cells are decoded from the
packet. -/
theorem sustains_nextCells :
    Sustains (Draining attempts start) (Drained attempts start) nextCells := by
  apply Sustains.bind
  · rw [nextRow_eq]
    refine sustains_untilEnd ?_
    intro packet
    refine .bind maintains_get ?_
    intro s
    exact maintains_pure _
  intro row
  -- Decoding the cells polls and reads nothing.
  refine .of_maintains ?_ fun _ h => h.drained
  split
  · exact maintains_pure _
  · split
    · exact maintains_pure _
    · exact maintains_throw _

/-- Reading all fields costs what they cost together. The loop is the general one
over a step. -/
theorem sustains_readFields :
    Sustains (Draining attempts start) (Drained attempts start) readFields := by
  apply Sustains.bind (.of_maintains maintains_get fun _ h => h.drained)
  intro s
  exact sustains_collect sustains_nextField (fun _ h => h.drained) s.packetBound []

/-- Reading all rows does as well, in whatever round it ends. -/
theorem sustains_readRows :
    Sustains (Draining attempts start) (Drained attempts start) readRows := by
  apply Sustains.bind (.of_maintains maintains_get fun _ h => h.drained)
  intro s
  exact sustains_collect sustains_nextCells (fun _ h => h.drained) s.packetBound []

/-- What is read beside an output costs what it costs. The output is carried along
and plays no part in it. -/
theorem sustains_besideSink {α : Type} {action : SessionM (Recorded τ) α}
    (h : Sustains (Draining attempts start) (Drained attempts start) action) :
    Sustains (fun x : Session (Recorded τ) × Sink => Draining attempts start x.1)
      (fun x => Drained attempts start x.1) (besideSink action) := by
  intro x hx
  rw [besideSink, ends_focus]
  exact h x.1 hx

/-- Writing costs nothing, be the line written or not. -/
theorem sustains_writeLine (text : String) :
    Sustains (fun x : Session (Recorded τ) × Sink => Draining attempts start x.1)
      (fun x => Drained attempts start x.1) (writeLine text) := by
  refine .of_maintains (maintains_writeLine _ text) ?_
  intro x hx
  exact hx.drained

/-- Showing a row costs what reading it costs, since the writing is free. -/
theorem sustains_showRow :
    Sustains (fun x : Session (Recorded τ) × Sink => Draining attempts start x.1)
      (fun x => Drained attempts start x.1) showRow := by
  apply Sustains.bind (sustains_besideSink sustains_nextCells)
  intro cells
  cases cells with
  | none => exact .of_maintains (maintains_pure _) fun _ h => h.drained
  | some cells =>
    refine .bind (sustains_writeLine _) ?_
    intro _
    exact .of_maintains (maintains_pure _) fun _ h => h.drained

/-- The display costs what its fields and rows cost, whatever the output makes of
the lines. -/
theorem sustains_showResults :
    Sustains (fun x : Session (Recorded τ) × Sink => Draining attempts start x.1)
      (fun x => Drained attempts start x.1) showResults := by
  apply Sustains.bind (sustains_besideSink sustains_readFields)
  intro fields
  apply Sustains.bind (sustains_writeLine _)
  intro _
  apply Sustains.bind (.of_maintains maintains_get fun _ h => h.drained)
  intro x
  apply Sustains.bind (sustains_collect sustains_showRow (fun _ h => h.drained) _ _)
  intro rows
  refine .bind (sustains_writeLine _) ?_
  intro _
  exact .of_maintains (maintains_pure _) fun _ h => h.drained

/-- Nothing has been spent at the start, and the budget is the session's own. -/
theorem draining_self (s : Session (Recorded τ)) :
    Draining s.channel.readAttempts s.channel.transport s where
  readAttempts := rfl
  paid := ⟨[], .nil _, by simp⟩

/-! ### Queries -/

/-- The transport when a command has been handed to it, whether it was delivered or
not. It is the point in time from which the answer is accounted for. -/
def commanded {τ : Type} [Transport τ] (s : Session τ) (payload : Bytes) : τ :=
  match (Transport.write (Packet.frame ⟨0, payload⟩) : EStateM IoError τ Unit).run
    s.channel.transport with
  | .ok _ t => t
  | .error _ t => t

/-- Handing the command over ends there, in success and in failure. So the start is
the same whichever it was. -/
theorem ends_write_commanded {τ : Type} [Transport τ] (s : Session τ) (payload : Bytes) :
    Ends (Transport.write (Packet.frame ⟨0, payload⟩) : EStateM IoError τ Unit) s.channel.transport
      (fun _ t => t = s.commanded payload) (fun _ t => t = s.commanded payload) := by
  refine (ends_run _ _).mono ?_ ?_
  · intro _ t ht
    rw [commanded, ht]
  · intro e t ht
    rw [commanded, ht]

/-- The answer to a query costs what has been read since the query was handed over.
What came before is not counted against it. -/
theorem ends_ask_draining (s : Session (Recorded τ)) {sql : Bytes}
    (hlength : (Command.query.payload sql).length < maxPayload) :
    Ends (ask sql) s
      (fun _ s' => Draining s.channel.readAttempts (s.commanded (Command.query.payload sql)) s')
      (fun _ s' => Drained s.channel.readAttempts (s.commanded (Command.query.payload sql)) s') := by
  have hsend : Ends (startExchange >>= fun _ => send (Command.query.payload sql)) s
      (fun _ s' => Draining s.channel.readAttempts (s.commanded (Command.query.payload sql)) s')
      (fun _ s' => Drained s.channel.readAttempts (s.commanded (Command.query.payload sql)) s') := by
    simp only [startExchange, send, Channel.resetSequence, Channel.send, Channel.note,
      Channel.onTransport, onChannel, ends_bind, ends_get, ends_focus, ends_modify, ends_ensure,
      ends_adaptExcept, if_pos hlength]
    -- Nothing has been read when the query is handed over.
    refine (s.ends_write_commanded _).mono ?_ ?_
    · intro _ t ht
      rw [← ht]
      exact ⟨rfl, [], .nil t, by simp⟩
    · intro e t ht
      rw [← ht]
      exact drained_of_spent (.nil t) (Nat.zero_le _)
  refine hsend.bind ?_
  intro _ s₁ h₁
  exact sustains_receive s₁ h₁

/-- So does a statement, whatever its answer says. Settling the answer reads nothing
more. -/
theorem ends_execute_draining {s : Session (Recorded τ)} {sql : Bytes} (h : s.Admits sql) :
    Ends (execute sql) s
      (fun _ s' => Draining s.channel.readAttempts (s.commanded (Command.query.payload sql)) s')
      (fun _ s' => Drained s.channel.readAttempts (s.commanded (Command.query.payload sql)) s') := by
  have hlength : (Command.query.payload sql).length < maxPayload :=
    (Config.fits_of_exceedsLimit_eq_false h.limit).2
  -- That the poll budget is the same is a law of all commands, and the rest is that of
  -- the transport.
  have hbudget := (lasting_readAttempts s.channel.readAttempts).maintains_execute sql s rfl
  have hpaid : Ends (execute sql) s
      (fun _ s' => Paid s.channel.readAttempts (s.commanded (Command.query.payload sql))
        s'.channel.transport)
      (fun _ s' => Drained s.channel.readAttempts (s.commanded (Command.query.payload sql)) s') := by
    rw [Ends, run_execute_of_admits h, ← Ends]
    refine (ends_ask_draining s hlength).bind ?_
    intro packet s₁ h₁
    refine (maintains_settle s₁ h₁.paid).mono (fun _ _ h => h) ?_
    intro e s' hs'
    exact Paid.drained hs'
  refine (hpaid.and hbudget).mono ?_ ?_
  · intro outcome s' h'
    obtain ⟨hpaid', hattempts⟩ := h'
    exact ⟨hattempts, hpaid'⟩
  · intro e s' h'
    exact h'.1

/-- A query that is sent is read to the end, and one that is not costs nothing. It
is not sent where the session does not admit it, and then the session is as it was. -/
theorem ends_query_drained (s : Session (Recorded τ)) (sql : String) :
    Ends (query sql) s
      (fun _ s' => Drained s.channel.readAttempts
        (s.commanded (Command.query.payload (Utf8.encode sql))) s')
      (fun _ s' => s' = s ∨ Drained s.channel.readAttempts
        (s.commanded (Command.query.payload (Utf8.encode sql))) s') := by
  rw [query, ends_bind]
  by_cases hadmits : s.Admits (Utf8.encode sql)
  · refine (ends_execute_draining hadmits).mono ?_ (fun _ _ h => .inr h)
    intro outcome s₁ h₁
    -- An answer without rows ends the query; a result set is read on, fields first.
    cases outcome with
    | done reply => exact h₁.drained
    | resultSet columnCount =>
      simp only [ends_bind, ends_ensure]
      refine (sustains_readFields s₁ h₁).mono ?_ (fun _ _ h => .inr h)
      intro fields s₂ h₂
      split
      case isTrue hcount =>
        refine (sustains_readRows s₂ h₂).mono ?_ ?_
        · intro rows s₃ h₃
          exact h₃.drained
        · intro e s₃ h₃
          exact .inr h₃
      case isFalse => exact .inr h₂.drained
  · obtain ⟨e, hrun⟩ := run_execute_of_not_admits hadmits
    rw [Ends, hrun]
    exact .inl rfl

/-! ### The budget of a read -/

/-- Whatever a transport answers, a read of a packet ends after as many reads of a
byte as a header and the payload have that it announces, if it is accepted, and
after as many waits; where nothing is ever announced it is given up after one. So on
a transport that can deliver only so many bytes the loops of `query` and of
`showResults` end as their rounds do, and the whole of either costs no more than
these bytes do, and one that is read in vain. -/
theorem read_within_budget :
    (∀ {τ : Type} [Transport τ] {given : UInt32} {c : Channel (Recorded τ)}
      {deeds : List Channel.Deed}, Channel.Deeds given c deeds →
      (Channel.Request.receive.deed c).WithinBudget (max given.toNat 1)
        ∧ ((repeated Transport.available (max given.toNat 1) c.transport).1
            = List.replicate (max given.toNat 1) (.ok 0) →
          (Channel.Request.receive.deed c).result = .error .timeout
            ∧ (Channel.Request.receive.deed c).log
              = List.replicate (max given.toNat 1) silence))
    ∧ ∀ {τ : Type} [FiniteTransport τ] (s : Session (Recorded τ)),
      Ends readFields s (fun fields s' => Yields nextField s fields s')
          (fun e s' => Fails nextField s e s')
        ∧ Ends readRows s (fun rows s' => Yields nextCells s rows s')
          (fun e s' => Fails nextCells s e s')
        ∧ (∀ sink, Ends (collect showRow s.packetBound []) (s, sink)
          (fun rows x => Yields showRow (s, sink) rows x)
          (fun e x => Fails showRow (s, sink) e x))
        ∧ (∀ sql : String, Ends (query sql) s
          (fun _ s' => Drained s.channel.readAttempts
            (s.commanded (Command.query.payload (Utf8.encode sql))) s')
          (fun _ s' => s' = s ∨ Drained s.channel.readAttempts
            (s.commanded (Command.query.payload (Utf8.encode sql))) s'))
        ∧ ∀ sink, Ends showResults (s, sink)
          (fun _ x => Drained s.channel.readAttempts s.channel.transport x.1)
          (fun _ x => Drained s.channel.readAttempts s.channel.transport x.1) := by
  constructor
  · intro τ _ given c deeds h
    rw [← h.readAttempts_eq]
    exact ⟨Channel.withinBudget_receive c, Channel.deed_of_silent⟩
  · intro τ _ s
    refine ⟨ends_readFields_rounds s, ends_readRows_rounds s, ?_, ends_query_drained s, ?_⟩
    · intro sink
      exact ends_showRows_rounds (s, sink)
    · intro sink
      have hshown := sustains_showResults (s, sink) s.draining_self
      exact hshown.mono (fun _ _ h => h.drained) (fun _ _ h => h)

/-- A server that never says anything, to a channel that was told not to poll, and
one that delivers a packet of one byte in pieces. -/
theorem read_within_budget_of_trickle :
    let silent : Channel (Recorded ScriptedTransport) := .ofTransport { inner := {} } 0
    let slow : Channel (Recorded ScriptedTransport) := .ofTransport { inner := {
      script := [.idle 1, .data [1, 0], .claim 2, .data [0, 0], .idle 2, .data [7]] } } 3
    (Channel.Request.receive.deed silent).result = .error .timeout
      ∧ (Channel.Request.receive.deed silent).log = [silence]
      ∧ (Channel.Request.receive.deed slow).announced = 1
      ∧ reads (Channel.Request.receive.deed slow).log ≤ 5
      ∧ polls (Channel.Request.receive.deed slow).log ≤ 3 * 5 := by
  intro silent slow
  have hsilent : Channel.Deeds 0 silent [] := .ofTransport _
  have hslow : Channel.Deeds 3 slow [] := .ofTransport _
  obtain ⟨hpacket, -⟩ := read_within_budget
  obtain ⟨hresult, hlog⟩ := (hpacket hsilent).2 rfl
  obtain ⟨hreads, hpolls⟩ := (hpacket hslow).1
  have hone : (Channel.Request.receive.deed slow).announced = 1 := by decide +kernel
  rw [hone] at hreads hpolls
  exact ⟨hresult, hlog, hone, hreads, hpolls⟩

end SqlWire.Session
