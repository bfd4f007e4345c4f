import SqlWire.Proofs.Config
import SqlWire.Proofs.Session.Answer
import SqlWire.Proofs.Session.Outbound
import SqlWire.Proofs.Session.Reachable

/-!
# How long a query may be

A query passes three checks on its way: `execute` compares it with the configured
limit and, together with its command byte, with the largest packet, and a channel
refuses a payload that does not fit one packet. A session is authenticated only
under a configuration that has been checked, and there the configured limit is below
the other two, so it alone decides (`Config.exceedsLimit_of_validate`).

`execute_by_length` is what follows for a session that a program can come by: a
query above the limit is refused and nothing happens, and any other is handed to the
transport in one buffer.
-/

set_option autoImplicit false

namespace SqlWire

open SqlWire.Action Turn

/-- Of the two tests in front of a query only the first one decides. Under a valid
configuration a query within the limit fits one packet with its command byte. -/
theorem Config.exceedsLimit_of_validate {c : Config} (h : c.validate = .ok ()) (length : Nat) :
    c.exceedsLimit length = decide (c.maxQuerySize.toNat < length) := by
  by_cases hlength : c.maxQuerySize.toNat < length
  · simp [exceedsLimit, hlength]
  · rw [(fits_of_validate h (Nat.le_of_not_lt hlength)).1, decide_eq_false hlength]

/-- The buffer is one packet: a header that announces the query and its command
byte, and no continuation, and behind it these two. -/
structure CarriesQuery (sql buffer : Bytes) : Prop where
  length : buffer.length = sql.length + 5
  announced : (Header.ofBytes buffer).length = sql.length + 1
  single : (Header.ofBytes buffer).length ≠ 0xFFFFFF
  content : buffer.drop Header.size = 0x03 :: sql

/-- The frame of a query that fits is such a buffer, whatever its number. The header
says the length of the payload that follows it. -/
theorem carriesQuery_frame {sequence : UInt8} {sql : Bytes}
    (h : (Command.query.payload sql).length < maxPayload) :
    CarriesQuery sql (Packet.frame ⟨sequence, Command.query.payload sql⟩) := by
  have hcount : (Command.query.payload sql).length = sql.length + 1 := rfl
  have hlength := Packet.length_frame ⟨sequence, Command.query.payload sql⟩
  have hframed : Framed (Packet.frame ⟨sequence, Command.query.payload sql⟩) := framed_frame h
  have hannounced : (Header.ofBytes (Packet.frame ⟨sequence, Command.query.payload sql⟩)).length
      = sql.length + 1 := by
    rw [hframed.length, hlength, Nat.add_sub_cancel_left, hcount]
  refine ⟨?_, hannounced, Nat.ne_of_lt hframed.single, rfl⟩
  rw [hlength, hcount, Header.size]
  omega

namespace Session

section

variable {τ : Type} {s : Session (Recorded τ)} {sql : Bytes}

/-- One buffer more has been handed to the transport, and it carries the query.
Whether the transport delivers it is another matter. -/
def Handed (s : Session (Recorded τ)) (sql : Bytes) (s' : Session (Recorded τ)) : Prop :=
  ∃ buffer, s'.channel.transport.buffers = s.channel.transport.buffers ++ [buffer]
    ∧ CarriesQuery sql buffer

/-- What is said before an answer is heard has been handed over, so an operation
that went on to hear anything has handed over its query. -/
theorem handed_of_hears {s' : Session (Recorded τ)}
    (hfits : (Command.query.payload sql).length < maxPayload)
    (h : ∃ bs, Recorded.Tells
      (s.channel.transport.turns ++ [.command (Command.query.payload sql)] ++ hear bs)
      s'.channel.transport) : Handed s sql s' := by
  obtain ⟨bs, hturns⟩ := h
  refine ⟨Packet.frame ⟨0, Command.query.payload sql⟩, ?_, carriesQuery_frame hfits⟩
  -- What is heard hands nothing over, so the query is the one buffer more.
  rw [Recorded.buffers_eq, Recorded.buffers_eq, hturns, List.filterMap_append,
    List.filterMap_append, filterMap_said_hear, List.append_nil]
  rfl

variable [Transport τ]

/-- The query is refused as too large. The session and its transport stay what they
are, with the number that is due and the record of all calls. -/
def Refuses (s : Session (Recorded τ)) (sql : Bytes) : Prop :=
  ∃ e : QueryError, e.kind = .tooLarge ∧ (execute sql).run s = .error (.query e) s

/-- The query is handed over, whatever becomes of it and of its answer. So the same
is asked of success and of failure. -/
def Sends (s : Session (Recorded τ)) (sql : Bytes) : Prop :=
  Ends (execute sql) s (fun _ s' => Handed s sql s') (fun _ s' => Handed s sql s')

/-- What is refused is not handed over: a refusal leaves the buffers as they were. -/
theorem not_sends_of_refuses (h : Refuses s sql) : ¬ Sends s sql := by
  obtain ⟨e, -, hrun⟩ := h
  intro hsends
  obtain ⟨buffer, hbuffers, -⟩ := hsends.error_of_run hrun
  have hcount := congrArg List.length hbuffers
  rw [List.length_append, List.length_singleton] at hcount
  omega

/-- A query above the limit is refused, before anything of it is handed over. -/
theorem refuses_of_lt (hstate : s.state = .authenticated)
    (h : s.config.maxQuerySize.toNat < sql.length) : Refuses s sql := by
  have hlimit : ¬ s.config.exceedsLimit sql.length = false := by
    simp [Config.exceedsLimit, h]
  have hrun : (execute sql).run s
      = .error (tooLarge sql.length s.config.maxQuerySize.toNat) s := by
    simp only [execute_eq, requireReady, EStateM.run_bind, EStateM.run_get, run_ensure,
      if_pos hstate, if_neg hlimit]
  exact ⟨_, rfl, hrun⟩

/-- A query up to the limit is sent. A limit that passes the check of the
configuration leaves room for the command byte, so the packet holds it. -/
theorem sends_of_le (hvalid : s.config.validate = .ok ()) (hstate : s.state = .authenticated)
    (h : sql.length ≤ s.config.maxQuerySize.toNat) : Sends s sql := by
  obtain ⟨hlimit, hfits⟩ := Config.fits_of_validate hvalid h
  have hlength : (Command.query.payload sql).length < maxPayload := hfits
  -- The answer may be anything, so only that the query is said before it is carried through.
  have hask : Ends (ask sql) s (fun _ s' => Handed s sql s') (fun _ s' => Handed s sql s') := by
    let asked := s.channel.transport.turns ++ [.command (Command.query.payload sql)]
    have hanswer : Ends (ask sql) s
        (fun packet s' => Heard Recorded.Tells asked 1 [packet.payload] s')
        (Cut Recorded.Tells asked 1 (blameOn none)) := by
      refine ends_ask_bind Recorded.tally rfl hlength ?_
      intro s₁ h₁
      exact h₁.ends_receive Recorded.tally
    refine hanswer.mono ?_ ?_
    · intro packet s' hs'
      exact handed_of_hears hlength hs'.hears
    · intro e s' hs'
      exact handed_of_hears hlength hs'.hears
  rw [Sends, Ends, run_execute_of_admits ⟨hstate, hlimit⟩, ← Ends]
  refine hask.bind ?_
  intro packet s₁ h₁
  exact maintains_settle (J := fun t : Recorded τ => ∃ buffer,
    t.buffers = s.channel.transport.buffers ++ [buffer] ∧ CarriesQuery sql buffer) s₁ h₁

end

variable {τ : Type} [FiniteTransport τ]

/-- In every authenticated session that a program can come by, one of two things
happens to a query. Above the limit it is refused and nothing else is done, and up
to the limit it is handed to the transport in one buffer. The limit alone decides:
the test against the largest packet refuses nothing that it admits, and neither does
the channel, as the payload fits one packet. -/
theorem execute_by_length {s : Session (Recorded τ)} (hs : Reachable s)
    (hstate : s.state = .authenticated) (sql : Bytes) :
    (Refuses s sql ↔ s.config.maxQuerySize.toNat < sql.length)
      ∧ (Sends s sql ↔ sql.length ≤ s.config.maxQuerySize.toNat)
      ∧ s.config.exceedsLimit sql.length = decide (s.config.maxQuerySize.toNat < sql.length)
      ∧ (sql.length ≤ s.config.maxQuerySize.toNat →
        (Command.query.payload sql).length < maxPayload) := by
  have hvalid := hs.workable.valid hstate
  refine ⟨⟨?_, refuses_of_lt hstate⟩, ⟨?_, sends_of_le hvalid hstate⟩,
    Config.exceedsLimit_of_validate hvalid _, ?_⟩
  -- The two outcomes exclude each other, so each is had under its own condition only.
  · intro hrefuses
    apply Nat.lt_of_not_le
    intro hle
    exact not_sends_of_refuses hrefuses (sends_of_le hvalid hstate hle)
  · intro hsends
    apply Nat.le_of_not_lt
    intro hlt
    exact not_sends_of_refuses (refuses_of_lt hstate hlt) hsends
  · intro hle
    exact (Config.fits_of_validate hvalid hle).2

/-- A limit of four bytes, a query that has as many and one that has one more. -/
theorem execute_by_length_at_limit :
    let s : Session (Recorded MemoryTransport) := (Operation.connect.perform
      (ofTransport { inner := .welcoming 7 [] } { user := "app", maxQuerySize := 4 })).2
    Reachable s ∧ s.state = .authenticated ∧ Sends s [0x44, 0x4F, 0x20, 0x31]
      ∧ Refuses s [0x44, 0x4F, 0x20, 0x31, 0x32] := by
  intro s
  have hs : Reachable s := (Reachable.ofTransport _ _).perform .connect
  have hstate : s.state = .authenticated := by decide +kernel
  have hlimit : s.config.maxQuerySize.toNat = 4 := by decide +kernel
  clear_value s
  have hle : [0x44, 0x4F, 0x20, 0x31].length ≤ s.config.maxQuerySize.toNat := by
    rw [hlimit]
    decide
  have hlt : s.config.maxQuerySize.toNat < [0x44, 0x4F, 0x20, 0x31, 0x32].length := by
    rw [hlimit]
    decide
  obtain ⟨-, hsends, -⟩ := execute_by_length hs hstate [0x44, 0x4F, 0x20, 0x31]
  obtain ⟨hrefuses, -⟩ := execute_by_length hs hstate [0x44, 0x4F, 0x20, 0x31, 0x32]
  exact ⟨hs, hstate, hsends.mpr hle, hrefuses.mpr hlt⟩

end Session

end SqlWire
