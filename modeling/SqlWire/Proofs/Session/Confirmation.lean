import SqlWire.Proofs.Reply
import SqlWire.Proofs.Session.Answer
import SqlWire.Proofs.Session.Surfacing

/-!
# A confirmation is kept whole or not at all

If the confirmation of a statement arrives at `execute`, then it is what `execute`
returns, and all four numbers in it are what the session knows afterwards. If it
arrives cut short of its text then `execute` fails with what has arrived, and the
session knows what it knew before (`execute_of_confirmation`). That the answer which
arrives is the one that is read (`Arrives.run_execute`) follows from what has been
heard or from what is due, as for errors.
-/

set_option autoImplicit false

namespace SqlWire

open SqlWire.Action Turn

namespace Session

section

variable {τ : Type} [FiniteTransport τ] {s : Session (Recorded τ)} {sql payload : Bytes}

/-- If the packet has been delivered, then it is the answer that was given to the
query. This is what has to be known of an `execute` at its end to say what the
packet has been taken for. -/
def Answered (sql payload : Bytes) (s s' : Session (Recorded τ)) : Prop :=
  s.taken ++ Packet.frame ⟨1, payload⟩ <+: s'.taken →
    s.Admits sql ∧ ∃ s₁, (ask sql).run s = .ok ⟨1, payload⟩ s₁

/-- Where nothing has been heard, nothing has been answered. A query that was
declined is of this kind. -/
theorem answered_of_idle {s' : Session (Recorded τ)} (h : s'.taken = s.taken) :
    Answered sql payload s s' := by
  intro harrived
  rw [h] at harrived
  exact absurd harrived (not_delivered_of_idle (frame_ne_nil _))

/-- Whatever an `execute` comes to, the packet that it has been delivered is the
answer to its query. It is the first thing heard behind the query, and a whole
packet is heard in one way only. -/
theorem ends_execute_answered (hlength : payload.length < 0x1000000) :
    Ends (execute sql) s (fun _ s' => Answered sql payload s s')
      (fun _ s' => Answered sql payload s s') := by
  by_cases hadmits : s.Admits sql
  case neg =>
    obtain ⟨e, hrun⟩ := run_execute_of_not_admits hadmits
    rw [Ends, hrun]
    exact answered_of_idle rfl
  rw [Ends, run_execute_of_admits hadmits, ← Ends, ends_bind]
  have hturns := ends_ask_turns (Recorded.tally (τ := τ))
    (rfl : Recorded.Tells _ s.channel.transport) sql
  refine (hturns.and (ends_run (ask sql) s)).mono ?_ ?_
  · intro packet s₁ h₁
    obtain ⟨⟨hnumber, hshort, hheard⟩, hrun⟩ := h₁
    -- Nothing more is heard while the answer is settled.
    have hsettled (s' : Session (Recorded τ)) (hs' : Recorded.Tells
        (s.channel.transport.turns ++ [.command (Command.query.payload sql)] ++ hear packet.frame)
        s'.channel.transport) : Answered sql payload s s' := by
      intro harrived
      rw [taken_of_tells hs', heard_command, List.prefix_append_right_inj] at harrived
      obtain ⟨rest, hrest⟩ := harrived
      rw [← List.append_nil packet.frame] at hrest
      obtain ⟨rfl, -⟩ := Packet.frame_append_inj hlength hshort hrest
      exact ⟨hadmits, s₁, hrun⟩
    exact (maintains_settle s₁ hheard).mono (fun _ => hsettled) (fun _ => hsettled)
  · intro e s₁ h₁
    obtain ⟨hkept | ⟨bs, hheard, hlacks⟩, -⟩ := h₁
    · apply answered_of_idle
      rw [taken, Recorded.taken_eq, hkept, heard_turns]
    · intro harrived
      rw [taken_of_tells hheard, heard_command, List.prefix_append_right_inj] at harrived
      exact absurd harrived (hlacks payload hlength)

/-- The answer that is due is the one that is given to a query, as a packet with the
number one. -/
theorem Due.run_ask {holds : Recorded τ → Bytes → Nat → Prop}
    (h : Channel.Supply s.channel.readAttempts holds) (hlength : payload.length < 0x1000000)
    (hadmits : s.Admits sql)
    (hs : s.Due s.channel.readAttempts holds (Packet.frame ⟨1, payload⟩)) :
    ∃ s', (ask sql).run s = .ok ⟨1, payload⟩ s' := by
  have hquery : (Command.query.payload sql).length < maxPayload :=
    (Config.fits_of_exceedsLimit_eq_false hadmits.limit).2
  have hend : Ends (ask sql) s (fun packet _ => packet = ⟨1, payload⟩) (fun _ _ => False) := by
    refine hs.ends_startExchange.bind_of_ok ?_
    intro _ s₁ h₁
    obtain ⟨hdue₁, -, hsequence₁, -⟩ := h₁
    refine (hdue₁.ends_send h hquery).bind_of_ok ?_
    intro _ s₂ h₂
    obtain ⟨hdue₂, -, hsequence₂⟩ := h₂
    rw [hsequence₁] at hsequence₂
    -- The number that is due is the one that the answer carries.
    have hone : (1 : UInt8) = s₂.channel.sequence := hsequence₂.symm
    rw [← List.append_nil (Packet.frame _), hone] at hdue₂
    rw [hone]
    refine (hdue₂.ends_receive h hlength).mono ?_ (fun _ _ h => h)
    intro packet s₃ h₃
    obtain ⟨hpacket, -⟩ := h₃
    exact hpacket
  cases hrun : (ask sql).run s with
  | ok packet s' =>
    obtain rfl : packet = ⟨1, payload⟩ := hend.ok_of_run hrun
    exact ⟨s', rfl⟩
  | error e s' => exact (hend.error_of_run hrun).elim

/-- The answer that arrives is the one that is settled, from what the session knew
before. It may have been delivered already or be due; in either case asking comes to
it. -/
theorem Arrives.run_execute (hlength : payload.length < 0x1000000)
    (h : Arrives s (.execute sql) (Packet.frame ⟨1, payload⟩)) :
    ∃ s', s'.counters = s.counters
      ∧ (execute sql).run s = (settle sql ⟨1, payload⟩).run s' := by
  obtain ⟨hadmits, s', hrun⟩ : s.Admits sql ∧ ∃ s', (ask sql).run s = .ok ⟨1, payload⟩ s' := by
    cases h with
    | delivered h =>
      exact report_of_ends (fun _ s' => Answered sql payload s s') (ends_execute_answered hlength) h
    | due hsupply hlistens =>
      cases hlistens with
      | execute admits fronts => exact ⟨admits, Due.run_ask hsupply hlength admits ⟨fronts, rfl⟩⟩
  have hstanding := (standing_self s).ends_ask.ok_of_run hrun
  refine ⟨s', hstanding.counters, ?_⟩
  rw [run_execute_of_admits hadmits, EStateM.run_bind, hrun]

/-- The confirmation of a statement is read whole and kept whole, however wide its
counts. Cut short of its text it is refused, with what there is of it, and nothing
of it is kept. A cut within the text is not covered, since the text may be of any
length. -/
theorem execute_of_confirmation (s : Session (Recorded τ)) (sql : Bytes) (reply : OkReply)
    (hshort : reply.encode.length < maxPayload) :
    (Arrives s (.execute sql) (Packet.frame ⟨1, reply.encode⟩) →
      ((Operation.execute sql).perform s).1.result = .ok (.outcome (.done reply))
        ∧ ((Operation.execute sql).perform s).2.counters
          = ⟨reply.affectedRows, reply.lastInsertId, reply.statusFlags, reply.warnings⟩)
      ∧ ∀ k, k + (Utf8.encode reply.info).length < reply.encode.length →
        Arrives s (.execute sql) (Packet.frame ⟨1, reply.encode.take k⟩) →
          ((Operation.execute sql).perform s).1.result
            = .error (.breachIn (if k = 0 then "Invalid result set header" else "Invalid OK packet")
              (reply.encode.take k))
          ∧ ((Operation.execute sql).perform s).2.counters = s.counters := by
  have hlength : reply.encode.length < 0x1000000 := Nat.lt_trans hshort (by decide)
  constructor
  · intro harrives
    obtain ⟨s', hs', hrun⟩ := harrives.run_execute hlength
    rw [run_settle_of_kind_ok (by rfl), reply.run?_encode] at hrun
    rw [Operation.perform, Operation.report, hrun]
    exact ⟨rfl, rfl⟩
  · intro k hk harrives
    have htake : (reply.encode.take k).length < 0x1000000 :=
      Nat.lt_of_le_of_lt (List.length_take_le' ..) hlength
    obtain ⟨s', hs', hrun⟩ := harrives.run_execute htake
    have hnone := reply.run?_take hk
    cases k with
    | zero =>
      -- Without its marker it is not even seen to be a confirmation.
      rw [List.take_zero, run_settle_nil] at hrun
      rw [Operation.perform, Operation.report, hrun]
      exact ⟨rfl, hs'⟩
    | succ k =>
      rw [run_settle_of_kind_ok (by rfl), hnone] at hrun
      rw [Operation.perform, Operation.report, hrun]
      exact ⟨rfl, hs'⟩

/-- A count in each of the two wider forms. The confirmation comes whole, and cut
inside of the first count, on a session that has seen warnings. -/
theorem execute_of_confirmation_wide_counts :
    let reply : OkReply := ⟨0xFFFFFFFFFFFFFFFF, 70000, 2, 1, "done"⟩
    let cut := reply.encode.take 5
    let session (payload : Bytes) : Session (Recorded MemoryTransport) :=
      { state := .authenticated, config := { user := "app" }, warnings := 7
        channel := {
          transport := { inner := { connected := true, incoming := Packet.frame ⟨1, payload⟩ } }
          readAttempts := 10 } }
    reply.encode.length < maxPayload ∧ cut = [0x00, 0xFE, 0xFF, 0xFF, 0xFF]
      ∧ 5 + (Utf8.encode reply.info).length < reply.encode.length
      ∧ Arrives (session reply.encode) (.execute [0x53]) (Packet.frame ⟨1, reply.encode⟩)
      ∧ ((Operation.execute [0x53]).perform (session reply.encode)).1.result
        = .ok (.outcome (.done reply))
      ∧ ((Operation.execute [0x53]).perform (session reply.encode)).2.counters
        = ⟨0xFFFFFFFFFFFFFFFF, 70000, 2, 1⟩
      ∧ Arrives (session cut) (.execute [0x53]) (Packet.frame ⟨1, cut⟩)
      ∧ ((Operation.execute [0x53]).perform (session cut)).1.result
        = .error (.breachIn "Invalid OK packet" cut)
      ∧ ((Operation.execute [0x53]).perform (session cut)).2.counters = ⟨0, 0, 0, 7⟩ := by
  intro reply cut session
  have hshort : reply.encode.length < maxPayload := by decide +kernel
  have hlength : 5 + (Utf8.encode reply.info).length < reply.encode.length := by decide +kernel
  have hsupply := (MemoryTransport.supply_loaded (Nat.zero_lt_succ 9)).recorded
  have harrives (payload : Bytes) :
      Arrives (session payload) (.execute [0x53]) (Packet.frame ⟨1, payload⟩) := by
    refine .due hsupply (.execute ⟨rfl, rfl⟩ ⟨[], (session payload).channel.transport.inner, ?_, rfl⟩)
    rw [List.append_nil]
    exact ⟨rfl, Nat.zero_le _⟩
  obtain ⟨hwhole, -⟩ := execute_of_confirmation (session reply.encode) [0x53] reply hshort
  obtain ⟨-, hpart⟩ := execute_of_confirmation (session cut) [0x53] reply hshort
  obtain ⟨hresult, hcounters⟩ := hwhole (harrives _)
  obtain ⟨hrefused, hkept⟩ := hpart 5 hlength (harrives _)
  exact ⟨hshort, by decide +kernel, hlength, harrives _, hresult, hcounters, harrives _, hrefused,
    hkept⟩

end

end Session

end SqlWire
