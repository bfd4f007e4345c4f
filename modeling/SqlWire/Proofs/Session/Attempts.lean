import SqlWire.Proofs.Channel.Outcome
import SqlWire.Proofs.Config
import SqlWire.Proofs.Session.Steady
import SqlWire.Transport.Memory
import SqlWire.Transport.Scripted

/-!
# How often a transport is asked to connect

A `connect` asks its transport for a connection as often as the configuration says
at the most, and not again once it has got one. `Session.answers` is what the
transport says to that many requests made one after another, and `upToSuccess` the
part of it that is heard. `ends_openTransport_answers` follows the loop through
these answers, for any transport.

On a recorded transport the requests are among the calls (`Recorded.requests`), and
logging in makes no more of them, whatever it comes to. A transport in memory
refuses the first few requests, so there the count decides
(`MemoryTransport.repeated_connect`). `connect_requests` states both.
-/

set_option autoImplicit false

namespace SqlWire

open SqlWire.Action

namespace Action

variable {ε σ α : Type}

/-- The outcomes up to the first success, and all of them where there is none.
Whoever stops at a success has had these. -/
def upToSuccess (outcomes : List (Except ε α)) : List (Except ε α) :=
  outcomes.take (outcomes.findIdx Except.isOk + 1)

/-- Nothing is heard behind a success, whatever would have come. -/
theorem upToSuccess_ok (a : α) (outcomes : List (Except ε α)) :
    upToSuccess (.ok a :: outcomes) = [.ok a] :=
  rfl

/-- A failure is heard, and the rest behind it. With the law above this is a
recursion over the outcomes. -/
theorem upToSuccess_error (e : ε) (outcomes : List (Except ε α)) :
    upToSuccess (.error e :: outcomes) = .error e :: upToSuccess outcomes := by
  simp [upToSuccess, List.findIdx_cons, Except.isOk, Except.toBool]

/-- Their number is the place of the first success, or that of all outcomes where
there is none. -/
theorem length_upToSuccess (outcomes : List (Except ε α)) :
    (upToSuccess outcomes).length = min (outcomes.findIdx Except.isOk + 1) outcomes.length :=
  List.length_take

/-- Failures are passed over, so what is heard behind them is what would be heard
without them. -/
theorem upToSuccess_append (failures : List ε) (outcomes : List (Except ε α)) :
    upToSuccess (failures.map .error ++ outcomes) = failures.map .error ++ upToSuccess outcomes := by
  induction failures with
  | nil => rfl
  | cons e failures ih =>
    rw [List.map_cons, List.cons_append, upToSuccess_error, ih]
    rfl

/-- Where all have failed, all are heard, since there is no success to stop at. -/
theorem upToSuccess_failures (failures : List ε) :
    upToSuccess (failures.map .error : List (Except ε α)) = failures.map .error := by
  simpa [upToSuccess] using upToSuccess_append failures ([] : List (Except ε α))

/-- There are as many outcomes as the action is done, of whatever kind they are. -/
theorem length_repeated (action : EStateM ε σ α) (times : Nat) (s : σ) :
    (repeated action times s).1.length = times := by
  induction times generalizing s with
  | zero => rfl
  | succ times ih =>
    rw [repeated]
    cases action.run s with
    | ok a s' => exact congrArg (· + 1) (ih s')
    | error e s' => exact congrArg (· + 1) (ih s')

/-- Doing it less often gives the first of the outcomes. The induction is on the
smaller number, and both begin with the same run. -/
theorem repeated_take (action : EStateM ε σ α) {fewer times : Nat} (h : fewer ≤ times) (s : σ) :
    (repeated action fewer s).1 = (repeated action times s).1.take fewer := by
  induction fewer generalizing times s with
  | zero => rfl
  | succ fewer ih =>
    obtain ⟨times, rfl⟩ := Nat.exists_eq_add_one_of_ne_zero (Nat.ne_of_gt (Nat.zero_lt_of_lt h))
    have hrest (s' : σ) := ih (Nat.le_of_succ_le_succ h) s'
    rw [repeated, repeated]
    cases action.run s with
    | ok a s' => exact congrArg (Except.ok a :: ·) (hrest s')
    | error e s' => exact congrArg (Except.error e :: ·) (hrest s')

/-- Done up to the first success, an action has had the outcomes up to there. So a
prefix of the outcomes belongs to a prefix of the repetitions. -/
theorem repeated_upToSuccess (action : EStateM ε σ α) (times : Nat) (s : σ) :
    (repeated action (upToSuccess (repeated action times s).1).length s).1
      = upToSuccess (repeated action times s).1 := by
  have hle : (upToSuccess (repeated action times s).1).length ≤ times := by
    rw [length_upToSuccess, length_repeated]
    exact Nat.min_le_right _ _
  rw [repeated_take action hle, upToSuccess, List.length_take, List.take_eq_take_iff]
  omega

end Action

/-! ### The loop -/

namespace Session

section

variable {τ : Type} [Transport τ]

/-- What the transport says to the requests for a connection that the configuration
allows, made one after another. It is an experiment on the transport that no
`connect` carries out to the end, if it succeeds before. -/
def answers (s : Session τ) : List (Except IoError Unit) :=
  (repeated (Transport.connect s.config.host s.config.port) s.config.connectAttempts.toNat
    s.channel.transport).1

/-- There are as many answers as requests allowed. How many of them are heard
depends on where the first success is. -/
theorem length_answers (s : Session τ) : s.answers.length = s.config.connectAttempts.toNat :=
  length_repeated _ _ _

/-- The transport when it has given a connection, or when it has been asked often
enough. -/
def answered (s : Session τ) : τ :=
  (repeated (Transport.connect s.config.host s.config.port) (upToSuccess s.answers).length
    s.channel.transport).2

/-- The loop hears the answers up to the first success and stops there. Where there
is none it hears all of them, and fails with the last one. The induction is on the
requests that remain, with those made before only counted. -/
theorem ends_openTransport_answers (remaining made : Nat) (last : Option IoError)
    (s : Session τ) :
    let request : EStateM IoError τ Unit := Transport.connect s.config.host s.config.port
    let heard := (repeated request remaining s.channel.transport).1
    Ends (openTransport remaining made last) s
      (fun _ s' => (∃ outcome ∈ heard, outcome.isOk = true) ∧ s'.config = s.config
        ∧ s'.channel.transport
          = (repeated request (upToSuccess heard).length s.channel.transport).2)
      (fun e s' => ∃ failures : List IoError, heard = failures.map .error
        ∧ e = unreachable s.config (made + remaining) (failures.getLast?.or last)
        ∧ s'.channel.transport = (repeated request remaining s.channel.transport).2) := by
  intro request heard
  induction remaining generalizing made last s with
  | zero => exact ⟨[], rfl, rfl, rfl⟩
  | succ remaining ih =>
    simp only [openTransport, note, Channel.note, onTransport, Channel.onTransport, onChannel,
      ends_bind, ends_get, ends_focus, ends_modify, ends_outcome, Channel.noted]
    refine (ends_run request s.channel.transport).mono ?_ ?_
    · intro _ t ht
      -- The request that succeeds is the last one.
      have hheard : heard = .ok () :: (repeated request remaining t).1 := by
        simp only [heard, repeated, ht]
      refine ⟨⟨.ok (), by simp [hheard], rfl⟩, rfl, ?_⟩
      rw [hheard, upToSuccess_ok, List.length_singleton, repeated, ht]
      rfl
    · intro e t ht
      -- After one that fails the rest of the loop begins with the transport that it has left.
      have hheard : heard = .error e :: (repeated request remaining t).1 := by
        simp only [heard, repeated, ht]
      have hrest (times : Nat) :
          (repeated request (times + 1) s.channel.transport).2 = (repeated request times t).2 := by
        simp only [repeated, ht]
      refine (ih (made + 1) (some e) _).mono ?_ ?_
      · intro _ s' h
        obtain ⟨⟨outcome, hmem, hok⟩, hconfig, htransport⟩ := h
        have hmore : outcome ∈ heard := by
          rw [hheard]
          exact List.mem_cons_of_mem _ hmem
        refine ⟨⟨outcome, hmore, hok⟩, hconfig, ?_⟩
        rw [hheard, upToSuccess_error, List.length_cons, hrest]
        exact htransport
      · intro e' s' h
        obtain ⟨failures, hfailures, he, htransport⟩ := h
        have hmade : made + 1 + remaining = made + (remaining + 1) := by omega
        refine ⟨e :: failures, ?_, ?_, ?_⟩
        · rw [hheard, List.map_cons]
          exact congrArg _ hfailures
        · rw [he, List.getLast?_cons, Option.or_some, Option.some_or, hmade]
        · rw [hrest]
          exact htransport

/-- Where a session may be opened, its transport is asked until it gives a
connection. Then the login is made over what it has given, and where it gives none
this is the error. -/
theorem ends_connect_answers {s : Session τ} {ok : Unit → Session τ → Prop}
    {bad : Error → Session τ → Prop}
    (hclosed : Transport.isConnected s.channel.transport = false)
    (hvalid : s.config.validate = .ok ())
    (hlogin : ∀ s₁ : Session τ, (∃ outcome ∈ s.answers, outcome.isOk = true) →
      s₁.channel.transport = s.answered → Ends login s₁ ok (fun e s' => bad e s'.abandon))
    (hfailed : ∀ (failures : List IoError) (s₁ : Session τ), s.answers = failures.map .error →
      s₁.channel.transport = s.answered →
      bad (unreachable s.config s.config.connectAttempts.toNat failures.getLast?) s₁.abandon) :
    Ends connect s ok bad := by
  simp only [connect, hclosed, hvalid, ends_bind, ends_get, ends_ensure, ends_ofExcept, ends_modify,
    ends_tryCatch, ends_throw, if_true]
  refine (ends_openTransport_answers _ 0 none { s with state := .connecting }).mono ?_ ?_
  · intro _ s₁ h₁
    obtain ⟨hsome, -, htransport⟩ := h₁
    exact hlogin s₁ hsome htransport
  · intro e s₁ h₁
    obtain ⟨failures, hfailures, rfl, htransport⟩ := h₁
    have hanswers : s.answers = failures.map .error := hfailures
    -- No answer is a success, so all of them have been heard.
    have hall : (upToSuccess s.answers).length = s.config.connectAttempts.toNat := by
      rw [hanswers, upToSuccess_failures, ← hanswers, length_answers]
    rw [Nat.zero_add, Option.or_none]
    refine hfailed failures s₁ hanswers ?_
    rw [answered, hall]
    exact htransport

end

end Session

/-! ### Requests on record -/

namespace Recorded

variable {τ : Type}

/-- The request for a connection that a call is, if it is one: where to, and how it
failed, if it did. -/
def request? : TransportCall → Option (String × UInt16 × Option IoError)
  | .connect host port failure => some (host, port, failure)
  | _ => none

/-- The requests for a connection so far, first one first, each with the failure
that it came to. -/
def requests (t : Recorded τ) : List (String × UInt16 × Option IoError) :=
  t.calls.reverse.filterMap request?

/-- One more call adds the request that it is, or nothing. The record of calls is
the other way round, latest first. -/
theorem requests_cons (t : Recorded τ) (inner : τ) (call : TransportCall) :
    requests ⟨inner, call :: t.calls⟩ = t.requests ++ (request? call).toList := by
  simp only [requests, List.reverse_cons, List.filterMap_append]
  cases hrequest : request? call with
  | none => simp [hrequest]
  | some request => simp [hrequest]

/-- A call that is no request leaves the requests as they are, whatever the
transport does in it. -/
theorem maintains_requests_recording {α : Type} {call : Except IoError α → TransportCall}
    (h : ∀ outcome, request? (call outcome) = none) {made : List (String × UInt16 × Option IoError)}
    (action : EStateM IoError τ α) :
    Maintains (fun t => t.requests = made) (recording call action) := by
  refine maintains_recording ?_ action
  intro t inner outcome ht
  rw [requests_cons, h, ht]
  exact List.append_nil made

/-- An action repeated on record is recorded each time with what it came to. The
induction is on the number of repetitions. -/
theorem repeated_recording {α : Type} (call : Except IoError α → TransportCall)
    (action : EStateM IoError τ α) (times : Nat) (t : Recorded τ) :
    Since t (repeated (recording call action) times t).2
      ((repeated (recording call action) times t).1.map call) := by
  induction times generalizing t with
  | zero => rfl
  | succ times ih =>
    have hrest (outcome : Except IoError α) (inner : τ) :
        let t' : Recorded τ := ⟨inner, call outcome :: t.calls⟩
        Since t (repeated (recording call action) times t').2
          (call outcome :: (repeated (recording call action) times t').1.map call) := by
      intro t'
      rw [Since, ih t', List.reverse_cons, List.append_assoc]
      rfl
    rw [repeated, run_recording]
    cases action.run t.inner with
    | ok a inner => exact hrest (.ok a) inner
    | error e inner => exact hrest (.error e) inner

/-- Requests are read off the calls, so the requests since are among the calls
since. -/
theorem Since.requests {t t' : Recorded τ} {log : List TransportCall} (h : Since t t' log) :
    t'.requests = t.requests ++ log.filterMap request? := by
  rw [Recorded.requests, h, List.reverse_append, List.reverse_reverse, List.filterMap_append]
  rfl

end Recorded

namespace Session

open Recorded

section

variable {τ : Type} [Transport τ] {s s' : Session (Recorded τ)}

/-- Logging in makes no request: it only reads and writes. -/
theorem maintains_requests_login (made : List (String × UInt16 × Option IoError)) :
    Maintains (fun s : Session (Recorded τ) => s.channel.transport.requests = made) login := by
  have hsteady : Steady fun s : Session (Recorded τ) => s.channel.transport.requests = made := by
    refine steady_transport (J := fun t : Recorded τ => t.requests = made) ⟨?_, ?_⟩ ?_
    · exact maintains_requests_recording (fun _ => rfl) _
    · exact maintains_requests_recording (fun _ => rfl) _
    · intro bs
      exact maintains_requests_recording (fun _ => rfl) _
  exact hsteady.maintains_login fun _ _ _ _ hs => hs

/-- Between the two sessions the transport has been asked until it gave a
connection, or as often as it takes, and each time for the configured host and port. -/
def Requested (s s' : Session (Recorded τ)) : Prop :=
  s'.channel.transport.requests = s.channel.transport.requests
    ++ (upToSuccess s.answers).map fun outcome => (s.config.host, s.config.port, failure? outcome)

/-- Closing the transport is no request, so an opening that is given up has made
those it had made. -/
theorem Requested.abandon (h : Requested s s') : Requested s s'.abandon := by
  have hcall := requests_cons s'.channel.transport
    (Transport.close s'.channel.transport.inner) .close
  have hsame : s'.abandon.channel.transport.requests = s'.channel.transport.requests :=
    hcall.trans (List.append_nil _)
  exact hsame.trans h

/-- What is on record when the transport has been asked: one call for each answer
that was heard. -/
theorem since_answered (s : Session (Recorded τ)) :
    Since s.channel.transport s.answered ((upToSuccess s.answers).map
      fun outcome => .connect s.config.host s.config.port (failure? outcome)) := by
  have hsince := repeated_recording
    (fun outcome => .connect s.config.host s.config.port (failure? outcome))
    (Transport.connect s.config.host s.config.port) (upToSuccess s.answers).length
    s.channel.transport
  have hheard : (repeated (Transport.connect s.config.host s.config.port)
      (upToSuccess s.answers).length s.channel.transport).1 = upToSuccess s.answers :=
    repeated_upToSuccess _ _ _
  rw [← hheard]
  exact hsince

/-- So a session whose transport has just been asked has made these requests, and no
others. -/
theorem requested_of_answered (h : s'.channel.transport = s.answered) : Requested s s' := by
  have hnames := List.filterMap_eq_map (f := fun outcome : Except IoError Unit =>
    (s.config.host, s.config.port, failure? outcome))
  rw [Requested, h, s.since_answered.requests, List.filterMap_map]
  exact congrArg _ (congrFun hnames _)

/-- Whatever becomes of the login, there are no more requests. So the requests of an
opening are those that its transport was asked in a row. -/
theorem ends_connect_requested (hclosed : Transport.isConnected s.channel.transport = false)
    (hvalid : s.config.validate = .ok ()) :
    Ends connect s (fun _ s' => Requested s s') (fun _ s' => Requested s s') := by
  refine ends_connect_answers hclosed hvalid ?_ ?_
  · intro s₁ _ h₁
    refine (maintains_requests_login _ s₁ (requested_of_answered h₁)).mono (fun _ _ h => h) ?_
    intro e s₂ h₂
    exact Requested.abandon (s := s) h₂
  · intro _ s₁ _ h₁
    exact (requested_of_answered h₁).abandon

/-- All the requests that the configuration allows have failed. The error says so
and has the last of the failures in it, and the transport has been asked and closed
and nothing else. -/
def GivenUp (s : Session (Recorded τ)) (failures : List IoError) (e : Error)
    (s' : Session (Recorded τ)) : Prop :=
  ∃ last, failures[s.config.connectAttempts.toNat - 1]? = some last
    ∧ e = .connection {
      kind := .connect
      message :=
        s!"Could not connect to {s.config.address} after {s.config.connectAttempts.toNat} attempts"
      code := none
      sqlState := none
      source := some last }
    ∧ Since s.channel.transport s'.channel.transport
      (failures.map (fun e => .connect s.config.host s.config.port (some e)) ++ [.close])

/-- A transport that gives no connection is given up. It is asked once at least, for
a valid configuration allows one request or more. -/
theorem run_connect_of_failures (hclosed : Transport.isConnected s.channel.transport = false)
    (hvalid : s.config.validate = .ok ()) {failures : List IoError}
    (hfailures : s.answers = failures.map .error) :
    ∃ e s', connect.run s = .error e s' ∧ GivenUp s failures e s' := by
  -- At least one attempt is made, so there is a last failure.
  have hlength : failures.length = s.config.connectAttempts.toNat := by
    rw [← length_answers, hfailures, List.length_map]
  have hpos := Nat.pos_of_ne_zero (Config.connectAttempts_ne_zero_of_validate hvalid)
  obtain ⟨last, hlast⟩ : ∃ last, failures[s.config.connectAttempts.toNat - 1]? = some last :=
    ⟨_, List.getElem?_eq_getElem (by omega)⟩
  have hend : Ends connect s (fun _ _ => False) (GivenUp s failures) := by
    refine ends_connect_answers hclosed hvalid ?_ ?_
    · -- There is no success among the answers, so no login is made.
      intro s₁ hsome _
      obtain ⟨outcome, hmem, hok⟩ := hsome
      rw [hfailures] at hmem
      obtain ⟨e, -, rfl⟩ := List.mem_map.mp hmem
      cases hok
    · intro others s₁ hothers h₁
      have hsame := hothers.symm.trans hfailures
      obtain rfl : others = failures :=
        (List.map_inj_right fun _ _ h => Except.error.inj h).mp hsame
      have hsince : Since s.channel.transport s₁.channel.transport
          (others.map fun e => .connect s.config.host s.config.port (some e)) := by
        have hanswered := s.since_answered
        rw [hothers, upToSuccess_failures, List.map_map] at hanswered
        rw [h₁]
        exact hanswered
      refine ⟨last, hlast, ?_, hsince.concat _ _⟩
      rw [List.getLast?_eq_getElem?, hlength, hlast, unreachable]
  cases hrun : connect.run s with
  | ok _ s' => exact (hend.ok_of_run hrun).elim
  | error e s' => exact ⟨e, s', rfl, hend.error_of_run hrun⟩

end

end Session

/-! ### A transport in memory -/

namespace MemoryTransport

/-- How a transport in memory refuses to connect. It is the same error each time. -/
def refusal : IoError :=
  ⟨.connectionRefused, "connection refused"⟩

/-- Asked so many times, a transport in memory refuses as often as it is set to and
then connects. It counts every time. The induction is on the number of requests,
with one case for each way of answering the first. -/
theorem repeated_connect (host : String) (port : UInt16) (times : Nat) (t : MemoryTransport) :
    (repeated (Transport.connect host port) times t).1
        = List.replicate (min t.refusals times) (.error refusal)
          ++ List.replicate (times - t.refusals) (.ok ())
      ∧ (repeated (Transport.connect host port) times t).2.attempts = t.attempts + times := by
  -- A refusal uses up one of those the transport has in store, until none is left.
  induction times generalizing t with
  | zero => simp [repeated]
  | succ times ih =>
    obtain ⟨connected, refusals, attempts, incoming, written⟩ := t
    cases refusals with
    | zero =>
      have hrun : EStateM.run (Transport.connect host port)
          (⟨connected, 0, attempts, incoming, written⟩ : MemoryTransport)
          = .ok () ⟨true, 0, attempts + 1, incoming, written⟩ := rfl
      obtain ⟨houtcomes, hattempts⟩ := ih ⟨true, 0, attempts + 1, incoming, written⟩
      rw [repeated, hrun]
      simp only [houtcomes, hattempts, Nat.zero_min, Nat.sub_zero, List.replicate_zero,
        List.nil_append, List.replicate_succ, true_and]
      omega
    | succ refusals =>
      have hrun : EStateM.run (Transport.connect host port)
          (⟨connected, refusals + 1, attempts, incoming, written⟩ : MemoryTransport)
          = .error refusal ⟨connected, refusals, attempts + 1, incoming, written⟩ := rfl
      obtain ⟨houtcomes, hattempts⟩ := ih ⟨connected, refusals, attempts + 1, incoming, written⟩
      rw [repeated, hrun]
      simp only [houtcomes, hattempts, Nat.add_min_add_right, Nat.add_sub_add_right,
        List.replicate_succ, List.cons_append, true_and]
      omega

end MemoryTransport

namespace Session

variable {s : Session MemoryTransport}

/-- A transport in memory refuses first, and gives connections from then on. So the
first success is behind the refusals, or beyond the requests allowed. -/
theorem answers_of_memory (s : Session MemoryTransport) :
    s.answers
      = List.replicate (min s.channel.transport.refusals s.config.connectAttempts.toNat)
          (.error MemoryTransport.refusal)
        ++ List.replicate (s.config.connectAttempts.toNat - s.channel.transport.refusals) (.ok ()) :=
  (MemoryTransport.repeated_connect _ _ _ _).1

/-- The refusals are heard, and one answer more where there is one. -/
theorem length_upToSuccess_answers (s : Session MemoryTransport) :
    (upToSuccess s.answers).length
      = min (s.channel.transport.refusals + 1) s.config.connectAttempts.toNat := by
  have hheard := upToSuccess_append
    (List.replicate (min s.channel.transport.refusals s.config.connectAttempts.toNat)
      MemoryTransport.refusal)
    (List.replicate (s.config.connectAttempts.toNat - s.channel.transport.refusals) (.ok ()))
  have hlast (times : Nat) : (upToSuccess (List.replicate times
      (.ok () : Except IoError Unit))).length = min 1 times := by
    rw [length_upToSuccess, List.length_replicate]
    cases times <;> rfl
  rw [List.map_replicate, ← answers_of_memory] at hheard
  rw [hheard, List.length_append, List.length_replicate, hlast]
  omega

/-- The requests are counted, each of those that are made once. -/
theorem attempts_answered (s : Session MemoryTransport) :
    s.answered.attempts = s.channel.transport.attempts
      + min (s.channel.transport.refusals + 1) s.config.connectAttempts.toNat := by
  rw [answered, (MemoryTransport.repeated_connect _ _ _ _).2, length_upToSuccess_answers]

/-- The transport connects if it is asked more often than it refuses, and fails if
it is not. -/
theorem ends_openTransport_memory (s : Session MemoryTransport) :
    Ends (openTransport s.config.connectAttempts.toNat 0 none) s
      (fun _ _ => s.channel.transport.refusals < s.config.connectAttempts.toNat)
      (fun _ _ => s.config.connectAttempts.toNat ≤ s.channel.transport.refusals) := by
  refine (ends_openTransport_answers _ 0 none s).mono ?_ ?_
  · intro _ s' h
    obtain ⟨⟨outcome, hmem, hok⟩, -⟩ := h
    have hmem : outcome ∈ s.answers := hmem
    rw [answers_of_memory, List.mem_append, List.mem_replicate, List.mem_replicate] at hmem
    obtain ⟨-, rfl⟩ | ⟨hne, -⟩ := hmem
    · cases hok
    · omega
  · intro e s' h
    obtain ⟨failures, hfailures, -⟩ := h
    have hfailures : s.answers = failures.map .error := hfailures
    refine Nat.le_of_not_lt ?_
    -- Asked more often than it refuses, it would have connected once.
    intro hlt
    have hmem : Except.ok () ∈ s.answers := by
      have hsome : s.config.connectAttempts.toNat - s.channel.transport.refusals ≠ 0 := by omega
      rw [answers_of_memory]
      exact List.mem_append_right _ (List.mem_replicate.mpr ⟨hsome, rfl⟩)
    rw [hfailures] at hmem
    obtain ⟨e, -, h⟩ := List.mem_map.mp hmem
    cases h

/-- Logging in over a transport in memory does not count as an attempt to connect. -/
theorem maintains_attempts_login (made : Nat) :
    Maintains (fun s : Session MemoryTransport => s.channel.transport.attempts = made) login := by
  have hsteady : Steady fun s : Session MemoryTransport => s.channel.transport.attempts = made := by
    refine steady_transport (J := fun t : MemoryTransport => t.attempts = made) ⟨?_, ?_⟩ ?_
    · -- Neither reading nor writing counts as an attempt.
      intro t ht
      show Ends MemoryTransport.readByte t _ _
      simp only [MemoryTransport.readByte, ends_bind, ends_get]
      split
      · exact ht
      · exact ht
    · intro t ht
      exact ht
    · intro bs t ht
      show Ends (MemoryTransport.write bs) t _ _
      simp only [MemoryTransport.write, ends_bind, ends_get, ends_ensure, ends_set]
      split
      · exact ht
      · exact ht
  exact hsteady.maintains_login fun _ _ _ _ hs => hs

/-- Every request is counted, whatever becomes of the login, and nothing else of an
opening is. -/
theorem ends_connect_attempts (hclosed : s.channel.transport.connected = false)
    (hvalid : s.config.validate = .ok ()) :
    Ends connect s
      (fun _ s' => s'.channel.transport.attempts = s.channel.transport.attempts
        + min (s.channel.transport.refusals + 1) s.config.connectAttempts.toNat)
      (fun _ s' => s'.channel.transport.attempts = s.channel.transport.attempts
        + min (s.channel.transport.refusals + 1) s.config.connectAttempts.toNat) := by
  refine ends_connect_answers hclosed hvalid ?_ ?_
  · intro s₁ _ h₁
    have hcount := s.attempts_answered
    rw [← h₁] at hcount
    exact maintains_attempts_login _ s₁ hcount
  · intro _ s₁ _ h₁
    have hcount := s.attempts_answered
    rw [← h₁] at hcount
    exact hcount

/-- A `connect` of a valid configuration asks a transport that is not connected for
the configured host and port up to the first success, and at most as often as the
configuration says. It does not ask again, whatever becomes of the login. If all
requests fail, this is the error, with the last failure in it, and nothing has been
read or written. A transport in memory connects if it is to refuse less often, and
counts the requests. -/
theorem connect_requests {τ : Type} [Transport τ] :
    (∀ s : Session (Recorded τ), Transport.isConnected s.channel.transport = false →
      s.config.validate = .ok () →
      (upToSuccess s.answers).length
          = min (s.answers.findIdx Except.isOk + 1) s.config.connectAttempts.toNat
        ∧ Ends connect s (fun _ s' => Requested s s') (fun _ s' => Requested s s')
        ∧ ∀ failures : List IoError, s.answers = failures.map .error →
          ∃ e s', connect.run s = .error e s' ∧ GivenUp s failures e s')
    ∧ ∀ s : Session MemoryTransport, s.channel.transport.connected = false →
      s.config.validate = .ok () →
      Ends (openTransport s.config.connectAttempts.toNat 0 none) s
          (fun _ _ => s.channel.transport.refusals < s.config.connectAttempts.toNat)
          (fun _ _ => s.config.connectAttempts.toNat ≤ s.channel.transport.refusals)
        ∧ Ends connect s
          (fun _ s' => s'.channel.transport.attempts = s.channel.transport.attempts
            + min (s.channel.transport.refusals + 1) s.config.connectAttempts.toNat)
          (fun _ s' => s'.channel.transport.attempts = s.channel.transport.attempts
            + min (s.channel.transport.refusals + 1) s.config.connectAttempts.toNat) := by
  constructor
  · intro s hclosed hvalid
    refine ⟨?_, ends_connect_requested hclosed hvalid, ?_⟩
    · rw [length_upToSuccess, length_answers]
    · intro failures hfailures
      exact run_connect_of_failures hclosed hvalid hfailures
  · intro s hclosed hvalid
    exact ⟨ends_openTransport_memory s, ends_connect_attempts hclosed hvalid⟩

/-- A server that refuses the first request and falls silent after the second, one
that refuses all three, and one in memory that refuses two. -/
theorem connect_requests_refused :
    let busy : IoError := ⟨.connectionRefused, "busy"⟩
    let gone : IoError := ⟨.other, "gone"⟩
    let second : Session (Recorded ScriptedTransport) :=
      ofTransport { inner := { connectPlan := [some busy, none] } } { user := "app" }
    let never : Session (Recorded ScriptedTransport) :=
      ofTransport { inner := { connectPlan := [some busy, some busy, some gone] } } { user := "app" }
    let third : Session MemoryTransport := ofTransport { refusals := 2 } { user := "app" }
    (upToSuccess second.answers = [.error busy, .ok ()]
        ∧ Ends connect second (fun _ s' => Requested second s') (fun _ s' => Requested second s'))
      ∧ (∃ e s', connect.run never = .error e s' ∧ GivenUp never [busy, busy, gone] e s')
      ∧ Ends connect third (fun _ s' => s'.channel.transport.attempts = 3)
        (fun _ s' => s'.channel.transport.attempts = 3) := by
  intro busy gone second never third
  have hvalid : Config.validate { user := "app" } = .ok () :=
    Config.validate_eq_ok_iff.mpr (by decide +kernel)
  obtain ⟨-, hsecond, -⟩ := connect_requests.1 second rfl hvalid
  obtain ⟨-, -, hnever⟩ := connect_requests.1 never rfl hvalid
  obtain ⟨-, hthird⟩ := (connect_requests (τ := MemoryTransport)).2 third rfl hvalid
  exact ⟨⟨rfl, hsecond⟩, hnever [busy, busy, gone] rfl, hthird⟩

end Session

end SqlWire
