import SqlWire.Proofs.Session.Exchange

/-!
# A failed exchange records nothing

A command or a read decodes what the server sent before it keeps any of it, and what
it keeps it keeps in steps that cannot fail. So a failure, be it of the channel, of
the decoding or one that the server reports, leaves the session with what it held
before the call (`failure_keeps_record`). The channel may be anywhere by then.

The proofs follow the operations from the front. As long as the record is maintained
either way (`Maintains`) more steps may follow, and the part that changes it must be
one that cannot fail (`FailsOnly`); together they make an action that keeps the
record where it fails (`FailsKeeping`).
-/

set_option autoImplicit false

namespace SqlWire.Session

open SqlWire.Action

variable {τ : Type}

/-- The session has got as far as before and remembers the same. Nothing is said of
the channel, the bytes of which may be spent. -/
structure SameRecord (s s' : Session τ) : Prop where
  state : s'.state = s.state
  bookkeeping : s'.bookkeeping = s.bookkeeping

/-- A session has the record that it has, from which every failure is measured. -/
theorem SameRecord.refl (s : Session τ) : s.SameRecord s :=
  ⟨rfl, rfl⟩

/-- What is done on the channel is not on record, be it a packet sent, one received
or an event entered. -/
theorem maintains_sameRecord_onChannel {α : Type} (s : Session τ)
    (action : EStateM Error (Channel τ) α) : Maintains s.SameRecord (onChannel action) :=
  maintains_onChannel (fun _ _ h => ⟨h.state, h.bookkeeping⟩) action

/-- The check that a session takes commands looks at the state and changes nothing. -/
theorem maintains_sameRecord_requireReady (s : Session τ) : Maintains s.SameRecord requireReady :=
  .bind maintains_get fun _ => maintains_ensure _ _

/-- An event can always be entered, so it may stand between the steps that keep
something. -/
theorem failsOnly_note (kind : Error → Prop) (event : Event) :
    FailsOnly kind (note event : SessionM τ Unit) := by
  rw [note, onChannel, Channel.note]
  exact .focus (failsOnly_modify _)

variable [Transport τ]

/-- A step that reads one packet fails without a trace if what it makes of content
does. An end marker is kept after it has been decoded, and an error is reported
after that. -/
theorem failsKeeping_untilEnd {α : Type} {content : Packet → SessionM τ (Option α)} (s : Session τ)
    (hcontent : ∀ packet, FailsKeeping s.SameRecord (content packet)) :
    FailsKeeping s.SameRecord (untilEnd content) := by
  apply Maintains.bind_failsKeeping (maintains_sameRecord_onChannel s _)
  intro packet
  cases packet.kind with
  | eof =>
    apply Maintains.bind_failsKeeping (maintains_decode _ _ _ _)
    intro reply
    -- The record is written here, after the last step that can fail.
    apply FailsOnly.failsKeeping
    refine .bind (failsOnly_modify _) ?_
    intro _
    exact failsOnly_pure _
  | error =>
    apply Maintains.bind_failsKeeping (maintains_decode _ _ _ _)
    intro reply
    exact (maintains_throw _).failsKeeping
  | ok | data => exact hcontent packet

/-- Reading a field keeps nothing but end markers, so a field that cannot be decoded
leaves no trace. -/
theorem failsKeeping_nextField (s : Session τ) : FailsKeeping s.SameRecord nextField := by
  rw [nextField_eq]
  refine failsKeeping_untilEnd s ?_
  intro packet
  split
  case h_1 => exact (maintains_pure _).failsKeeping
  case h_2 => exact (maintains_throw _).failsKeeping

/-- Nor does a row: it is handed out undecoded, which does not fail. -/
theorem failsKeeping_nextRow (s : Session τ) : FailsKeeping s.SameRecord nextRow := by
  rw [nextRow_eq]
  refine failsKeeping_untilEnd s ?_
  intro packet
  apply Maintains.failsKeeping
  exact .bind maintains_get fun _ => maintains_pure _

/-- A command keeps the record up to its answer, so what is made of the answer
decides. -/
theorem failsKeeping_ask_bind {α : Type} {next : Packet → SessionM τ α} (s : Session τ)
    (payload : Bytes) (hnext : ∀ packet, FailsKeeping s.SameRecord (next packet)) :
    FailsKeeping s.SameRecord (startExchange >>= fun _ => send payload >>= fun _ =>
      receive >>= next) := by
  apply Maintains.bind_failsKeeping (maintains_sameRecord_onChannel s _)
  intro _
  apply Maintains.bind_failsKeeping (maintains_sameRecord_onChannel s _)
  intro _
  exact Maintains.bind_failsKeeping (maintains_sameRecord_onChannel s _) hnext

/-- A ping keeps the status of a confirmation, and only when it has been decoded. -/
theorem failsKeeping_ping (s : Session τ) : FailsKeeping s.SameRecord ping := by
  apply Maintains.bind_failsKeeping (maintains_sameRecord_requireReady s)
  intro _
  refine failsKeeping_ask_bind s _ ?_
  intro packet
  cases packet.kind with
  | ok =>
    apply Maintains.bind_failsKeeping (maintains_decode _ _ _ _)
    intro reply
    exact (failsOnly_modify _).failsKeeping
  | error =>
    apply Maintains.bind_failsKeeping (maintains_decode _ _ _ _)
    intro reply
    exact (maintains_throw _).failsKeeping
  | eof | data => exact (maintains_throw _).failsKeeping

/-- A command keeps the numbers of a confirmation, or the number of columns that are
announced, each after the packet has been decoded and before a step that cannot
fail. -/
theorem failsKeeping_execute (s : Session τ) (sql : Bytes) :
    FailsKeeping s.SameRecord (execute sql) := by
  apply Maintains.bind_failsKeeping (maintains_sameRecord_requireReady s)
  intro _
  apply Maintains.bind_failsKeeping maintains_get
  intro s₁
  apply Maintains.bind_failsKeeping (maintains_ensure _ _)
  intro _
  refine failsKeeping_ask_bind s _ ?_
  intro packet
  cases packet.kind with
  | ok =>
    apply Maintains.bind_failsKeeping (maintains_decode _ _ _ _)
    intro reply
    -- The confirmation and the count that goes with it are kept without a failure in between.
    apply FailsOnly.failsKeeping
    refine .bind (failsOnly_modify _) ?_
    intro _
    refine .bind (failsOnly_modify _) ?_
    intro _
    exact failsOnly_pure _
  | error =>
    apply Maintains.bind_failsKeeping (maintains_decode _ _ _ _)
    intro reply
    apply Maintains.bind_failsKeeping (maintains_sameRecord_onChannel s _)
    intro _
    exact (maintains_throw _).failsKeeping
  | eof | data =>
    dsimp only
    split
    case h_1 =>
      -- The number of columns is kept, and the event that tells of it can always be entered.
      apply FailsOnly.failsKeeping
      refine .bind (failsOnly_modify _) ?_
      intro _
      refine .bind (failsOnly_note _ _) ?_
      intro _
      exact failsOnly_pure _
    case h_2 => exact (maintains_throw _).failsKeeping

/-- A command or a read that fails, in whatever state, on whatever transport and for
whatever reason, leaves the session where it was: how far it has got, and all that
it remembers of its server and of earlier replies. The channel is left out, since
the packets that led to the failure have been read. -/
theorem failure_keeps_record (s : Session τ) (e : Error) (s' : Session τ) :
    (∀ sql, (execute sql).run s = .error e s' → s.SameRecord s')
      ∧ (ping.run s = .error e s' → s.SameRecord s')
      ∧ (nextField.run s = .error e s' → s.SameRecord s')
      ∧ (nextRow.run s = .error e s' → s.SameRecord s') := by
  refine ⟨?_, ?_, ?_, ?_⟩
  · intro sql
    exact (failsKeeping_execute s sql).error_of_run (.refl s)
  · exact (failsKeeping_ping s).error_of_run (.refl s)
  · exact (failsKeeping_nextField s).error_of_run (.refl s)
  · exact (failsKeeping_nextRow s).error_of_run (.refl s)

/-- A confirmation of six rows that ends before its status, an ERR packet, a field
that ends inside its first string and a row that comes out of turn: none of them
changes what an earlier exchange has left. -/
theorem failure_keeps_record_of_refused_replies :
    let facing (sequence : UInt8) (payload : Bytes) : Session MemoryTransport :=
      { ofTransport { connected := true, incoming := Packet.frame ⟨sequence, payload⟩ } {} with
        state := .authenticated, serverVersion := some "8.0", connectionId := 7, columnCount := 2
        affectedRows := 3, lastInsertId := 4, statusFlags := 2, warnings := 5 }
    let confirming := facing 1 [0, 6, 1, 0]
    let refusing := facing 1 [0xFF, 0x15, 4, 0x78]
    let describing := facing 0 [9, 0x64, 0x65, 0x66]
    let hurrying := facing 1 [1, 0x61]
    (∃ s', (execute [0x53]).run confirming = .error (.breachIn "Invalid OK packet" [0, 6, 1, 0]) s'
        ∧ confirming.SameRecord s')
      ∧ (∃ s', ping.run refusing = .error (refusal ⟨0x415, "", "x"⟩ none) s'
        ∧ refusing.SameRecord s')
      ∧ (∃ s', nextField.run describing
          = .error (.breachIn "Malformed field packet" [9, 0x64, 0x65, 0x66]) s'
        ∧ describing.SameRecord s')
      ∧ ∃ s', nextRow.run hurrying
          = .error (.breachIn "Packet out of order: expected sequence 0, got 1" [2, 0, 0, 1]) s'
        ∧ hurrying.SameRecord s' := by
  intro facing confirming refusing describing hurrying
  obtain ⟨s₁, hexecute⟩ : ∃ s', (execute [0x53]).run confirming
      = .error (.breachIn "Invalid OK packet" [0, 6, 1, 0]) s' :=
    exists_run_eq_error_iff.mpr (by decide +kernel)
  obtain ⟨s₂, hping⟩ : ∃ s', ping.run refusing = .error (refusal ⟨0x415, "", "x"⟩ none) s' :=
    exists_run_eq_error_iff.mpr (by decide +kernel)
  obtain ⟨s₃, hfield⟩ : ∃ s', nextField.run describing
      = .error (.breachIn "Malformed field packet" [9, 0x64, 0x65, 0x66]) s' :=
    exists_run_eq_error_iff.mpr (by decide +kernel)
  obtain ⟨s₄, hrow⟩ : ∃ s', nextRow.run hurrying
      = .error (.breachIn "Packet out of order: expected sequence 0, got 1" [2, 0, 0, 1]) s' :=
    exists_run_eq_error_iff.mpr (by decide +kernel)
  exact ⟨⟨s₁, hexecute, (failure_keeps_record _ _ s₁).1 _ hexecute⟩,
    ⟨s₂, hping, (failure_keeps_record _ _ s₂).2.1 hping⟩,
    ⟨s₃, hfield, (failure_keeps_record _ _ s₃).2.2.1 hfield⟩,
    s₄, hrow, (failure_keeps_record _ _ s₄).2.2.2 hrow⟩

end SqlWire.Session
