import SqlWire.Proofs.Session.Exchange
import SqlWire.Proofs.Session.Steady

/-!
# A session that may be used again is in step

`Error.isConnectionError` is all that a caller has to go by when a command fails:
after any other error the session is to go on. `perform_inStep` says that it can. A
command that succeeded, or that failed otherwise, has read the answer to it to the
end, packet by packet and up to the one that closes it, whatever bytes the server
has sent (`InStep`). The next command therefore begins where this answer ends.
-/

set_option autoImplicit false

namespace SqlWire

open SqlWire.Action

/-- The operations that the server answers. Opening is answered as well, but it is
not in step with anything before it. -/
def Operation.IsCommand : Operation → Prop
  | .execute _ | .query _ | .ping => True
  | .connect | .nextField | .nextRow | .showResults _ | .close => False

namespace Session

/-- What is left of a session by a command that came to the result: the answer that
was read, and the rest of the bytes still to come. -/
structure InStep (s : Session MemoryTransport) (result : Except Error Answer)
    (payloads : List Bytes) (s' : Session MemoryTransport) : Prop where
  /-- The bytes removed are those of whole packets, numbered from the one after the command. -/
  incoming : s.channel.transport.incoming
    = Packet.stream 1 payloads ++ s'.channel.transport.incoming
  short : ∀ payload ∈ payloads, payload.length < 0x1000000
  /-- Only a query that is too long is not answered. -/
  unanswered_iff : payloads = [] ↔ ∃ e, result = .error (.query e) ∧ e.kind = .tooLarge
  /-- Nothing is done about it, and nothing written. -/
  untouched : payloads = [] → s' = s
  /-- An ERR packet is the last of an answer. -/
  unmarked : Unmarked payloads.dropLast
  /-- There is one if and only if the command was refused. -/
  refused_iff : ∀ payload ∈ payloads.getLast?,
    payload.head? = some ErrReply.marker ↔ ∃ e, result = .error e
  /-- The error is made from it. -/
  refused : ∀ e, result = .error e → ∀ payload ∈ payloads.getLast?,
    ∃ reply sql, ErrReply.read.run? payload = some reply ∧ e = refusal reply sql
  /-- A result set ends with its second end marker. -/
  rows : ∀ set, result = .ok (.result (.rows set)) → ReadAs set payloads
  state : s'.state = .authenticated

/-- No error of a server is one of a query that was not sent. So from the kind of an
error it can be told whether anything was sent. -/
theorem refusalKind_ne_tooLarge (reply : ErrReply) : refusalKind reply ≠ .tooLarge := by
  unfold refusalKind
  split
  · decide
  · split <;> decide

section

variable {s s' : Session MemoryTransport} {before : List Turn} {payloads : List Bytes}

/-- An answer that was accepted to its end leaves the session in step. None of its
packets is an ERR packet, so the command has succeeded. -/
theorem Accepted.inStep {origin : Bytes} (horigin : origin = s.channel.transport.incoming)
    (h : Accepted (MemoryTransport.Heard origin) before 1 payloads s')
    (hbefore : before.filterMap Turn.heard? = []) (hpayloads : payloads ≠ []) {answer : Answer}
    (hrows : ∀ set, answer = .result (.rows set) → ReadAs set payloads)
    (hstate : s'.state = .authenticated) : InStep s (.ok answer) payloads s' where
  incoming := by
    have hturns := h.turns
    rw [MemoryTransport.Heard, horigin, List.filterMap_append, hbefore, List.nil_append,
      Turn.filterMap_heard_hear] at hturns
    exact hturns
  short := h.short
  unanswered_iff := iff_of_false hpayloads (by simp)
  untouched hnone := absurd hnone hpayloads
  unmarked payload hp := h.unmarked payload (List.dropLast_subset _ hp)
  refused_iff payload hp :=
    iff_of_false (h.unmarked payload (List.mem_of_getLast? hp)) (by simp)
  refused := by simp
  rows set hset := hrows set (Except.ok.inj hset)
  state := hstate

/-- So does one that an ERR packet ends. An exchange that was lost has a failure of
the connection to show for it, which is ruled out. -/
theorem Cut.inStep {origin : Bytes} (horigin : origin = s.channel.transport.incoming)
    {sql : Option Bytes} {e : Error}
    (h : Cut (MemoryTransport.Heard origin) before 1 (blameOn sql) e s')
    (hbefore : before.filterMap Turn.heard? = []) (he : e.isConnectionError = false)
    (hstate : s'.state = .authenticated) : ∃ payloads, InStep s (.error e) payloads s' := by
  cases h with
  | lost _ _ _ _ failure =>
    rw [failure.connection] at he
    cases he
  -- A refusal is a frame that has been read, the last one and the only one marked.
  | @refused payloads payload reply _ turns short unmarked marked read =>
    have hlast : ∀ p ∈ (payloads ++ [payload]).getLast?, p = payload := by
      intro p hp
      rw [List.getLast?_concat] at hp
      exact (Option.some.inj hp).symm
    exact ⟨payloads ++ [payload], {
      incoming := by
        rw [MemoryTransport.Heard, horigin, List.filterMap_append, hbefore, List.nil_append,
          Turn.filterMap_heard_hear] at turns
        exact turns
      short
      unanswered_iff := by
        refine iff_of_false (by simp) ?_
        rintro ⟨q, hq, hlarge⟩
        cases hq
        exact refusalKind_ne_tooLarge reply hlarge
      untouched := by simp
      unmarked := by rwa [List.dropLast_concat]
      refused_iff := by
        intro p hp
        rw [hlast p hp]
        exact iff_of_true marked ⟨_, rfl⟩
      refused := by
        rintro _ ⟨⟩ p hp
        rw [hlast p hp]
        exact ⟨reply, _, read, rfl⟩
      rows := by simp
      state := hstate }⟩

/-- A query that is not sent leaves everything as it is, so no packet has gone
either way. -/
theorem Declined.inStep {e : Error} (h : Declined s e s') (he : e.isConnectionError = false) :
    ∃ payloads, InStep s (.error e) payloads s' := by
  cases h with
  | notReady _ failure =>
    rw [failure] at he
    cases he
  | tooLong sql limit ready =>
    exact ⟨[], {
      incoming := by simp [Packet.stream, Packet.number]
      short := by simp
      unanswered_iff := by simp [tooLarge]
      untouched := by simp
      unmarked := by simp [Unmarked]
      refused_iff := by simp
      refused := by simp
      rows := by simp
      state := ready }⟩

/-- A command whose ends are these leaves the session in step, unless the connection
is to blame. The three ways of ending that a command has are put together here, for
all three commands at once. -/
theorem inStep_of_ends {α : Type} {action : SessionM MemoryTransport α} {answer : α → Answer}
    (command : Bytes) (sql : Option Bytes)
    (h : Ends action s
      (fun a s' => s.state = .authenticated ∧ ∃ payloads, payloads ≠ []
        ∧ Accepted (MemoryTransport.Heard s.channel.transport.incoming) [.command command] 1
          payloads s'
        ∧ ∀ set, answer a = .result (.rows set) → ReadAs set payloads)
      (fun e s' => Declined s e s' ∨ s.state = .authenticated
        ∧ Cut (MemoryTransport.Heard s.channel.transport.incoming) [.command command] 1
          (blameOn sql) e s'))
    (hstate : Maintains (fun s : Session MemoryTransport => s.state = .authenticated) action)
    (he : ∀ e, (Operation.report answer action s).1.result = .error e →
      e.isConnectionError = false) :
    ∃ payloads, InStep s (Operation.report answer action s).1.result payloads
      (Operation.report answer action s).2 := by
  -- An authenticated session stays one, and any other has done nothing.
  have hkept : Ends action s (fun _ s' => s.state = .authenticated → s'.state = .authenticated)
      (fun _ s' => s.state = .authenticated → s'.state = .authenticated) := by
    by_cases hready : s.state = .authenticated
    · exact (hstate s hready).mono (fun _ _ h _ => h) (fun _ _ h _ => h)
    · refine (maintains_const True action s trivial).mono ?_ ?_
      · intro _ s' _ h
        exact absurd h hready
      · intro _ s' _ h
        exact absurd h hready
  refine report_of_ends (fun result s' => (∀ e, result = .error e → e.isConnectionError = false) →
    ∃ payloads, InStep s result payloads s') ?_ he
  refine (h.and hkept).mono ?_ ?_
  · intro a s' ha _
    obtain ⟨⟨hready, payloads, hne, haccepted, hrows⟩, hkept⟩ := ha
    exact ⟨payloads, haccepted.inStep rfl rfl hne hrows (hkept hready)⟩
  · intro e s' ha he
    obtain ⟨hdeclined | ⟨hready, hcut⟩, hkept⟩ := ha
    · exact hdeclined.inStep (he e rfl)
    · exact hcut.inStep rfl rfl (he e rfl) (hkept hready)

/-- After a command that did not fail with its connection, the bytes removed from
the transport are the whole answer to it and nothing else, and the session is ready
for the next one. The command may well have failed: a refusal is an answer too, and
so is a query that was too long to be sent. -/
theorem perform_inStep (s : Session MemoryTransport) (operation : Operation)
    (hoperation : operation.IsCommand)
    (he : ∀ e, (operation.perform s).1.result = .error e → e.isConnectionError = false) :
    ∃ payloads, InStep s (operation.perform s).1.result payloads (operation.perform s).2 := by
  have ht := MemoryTransport.tally s.channel.transport.incoming
  have hs : MemoryTransport.Heard s.channel.transport.incoming [] s.channel.transport := rfl
  have hlasting := lasting_state (τ := MemoryTransport) (· = .authenticated)
  -- The commands differ in their frame, the statement an error quotes and the replies.
  cases operation with
  | execute sql =>
    refine inStep_of_ends (Command.query.payload sql) (some sql)
      ((ends_execute ht hs sql).mono ?_ ?_)
      (hlasting.maintains_execute sql) he
    · intro outcome s' h
      obtain ⟨hadmits, payload, haccepted⟩ := h
      exact ⟨hadmits.ready, [payload], by simp, haccepted, by simp⟩
    · intro e s' h
      rcases h with hdeclined | ⟨hadmits, hcut⟩
      · exact .inl hdeclined
      · exact .inr ⟨hadmits.ready, hcut⟩
  | query sql =>
    refine inStep_of_ends (Command.query.payload (Utf8.encode sql)) (some (Utf8.encode sql))
      ((ends_query ht hs sql).mono ?_ ?_)
      (hlasting.maintains_query sql) he
    · intro result s' h
      obtain ⟨hadmits, payloads, hne, haccepted, hrows⟩ := h
      refine ⟨hadmits.ready, payloads, hne, haccepted, ?_⟩
      intro set hset
      apply hrows set
      simpa using hset
    · intro e s' h
      rcases h with hdeclined | ⟨hadmits, hcut⟩
      · exact .inl hdeclined
      · exact .inr ⟨hadmits.ready, hcut⟩
  | ping =>
    refine inStep_of_ends (Command.ping.payload []) none
      ((ends_ping ht hs).mono ?_ (fun _ _ h => h)) hlasting.maintains_ping he
    intro _ s' h
    obtain ⟨hready, payload, haccepted⟩ := h
    exact ⟨hready, [payload], by simp, haccepted, by simp⟩
  | connect | nextField | nextRow | showResults | close => exact hoperation.elim

/-- The server gives up on a query after its first row: the answer ends with the
error, and the byte behind it stays. -/
theorem perform_inStep_deadlock :
    let greeting : Bytes := [10, 0x35, 0, 7, 0, 0, 0, 1, 1, 1, 1, 1, 1, 1, 1, 0, 0, 2, 8, 2, 0, 0,
      0, 0, 0, 0, 0, 0, 0, 0, 0, 0, 0, 0, 2, 2, 2, 2, 2, 2, 2, 2, 2, 2, 2, 2, 0]
    let server : MemoryTransport := {
      incoming := Packet.frame ⟨0, greeting⟩ ++ Packet.frame ⟨2, [0, 0, 0, 2, 0, 0, 0]⟩ }
    let field : Bytes := [3, 0x64, 0x65, 0x66, 0, 0, 0, 1, 0x61, 0, 12, 33, 0, 255, 0, 0, 0, 253, 0,
      0, 0, 0, 0]
    let deadlock : ErrReply := ⟨1213, "40001", "Deadlock found"⟩
    let answer : List Bytes :=
      [[1], field, [0xFE, 0, 0, 2, 0], [2, 0x6F, 0x6B], deadlock.encode]
    let s := (Operation.connect.perform (ofTransport server { user := "app" })).2.mapTransport
      (·.push (Packet.stream 1 answer ++ [7]))
    let operation := Operation.query "SELECT a FROM t"
    operation.IsCommand ∧ (operation.perform s).1.result = .error (refusal deadlock none)
      ∧ (∃ payloads, InStep s (operation.perform s).1.result payloads (operation.perform s).2)
      ∧ (operation.perform s).2.channel.transport.incoming = [7] := by
  intro greeting server field deadlock answer s operation
  have hresult : (operation.perform s).1.result = .error (refusal deadlock none) :=
    Report.error?_eq_some_iff.mp (by decide +kernel)
  have hkept : ∀ e, (operation.perform s).1.result = .error e → e.isConnectionError = false := by
    intro e he
    rw [hresult] at he
    cases he
    rfl
  have hpayloads := perform_inStep s operation trivial hkept
  exact ⟨trivial, hresult, hpayloads, by decide +kernel⟩

end

end Session

end SqlWire
