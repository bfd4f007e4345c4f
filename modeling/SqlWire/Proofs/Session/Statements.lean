import SqlWire.Proofs.Session.Answer
import SqlWire.Proofs.Session.Calls
import SqlWire.Proofs.Session.Welcome

/-!
# What the last statement has done

Two of the numbers that a session has from its server are about statements: the rows
that one has changed and the id that it has inserted (`Session.effect`). They come
with a confirmation, and of the calls that receive one only those that end in it
keep them: a `connect` that succeeds, and an `execute` or a `query` that returns the
confirmation (`Call.concludes`). A ping is confirmed in the same way and keeps
neither number; an end marker, and whatever an operation fails with, says nothing
about them. So they are those of the latest call that ended in a confirmation
(`Calls.affectedRows_and_lastInsertId`).

For the operations that conclude nothing this is read off the account of what they
were told (`perform_told`). The three that may conclude are followed to where their
confirmation is kept, and the pair is then one of the facts that are decided by some
calls and kept by the others (`Decided`).
-/

set_option autoImplicit false

namespace SqlWire

open SqlWire.Action

/-! ### Numbers of a statement -/

/-- The rows changed and the id inserted, the two of the four numbers that are about
statements. -/
def Counters.effect (c : Counters) : UInt64 × UInt64 :=
  (c.affectedRows, c.lastInsertId)

/-- The same two numbers in the confirmation that they come with. -/
def OkReply.effect (r : OkReply) : UInt64 × UInt64 :=
  (r.affectedRows, r.lastInsertId)

/-- End markers say nothing about statements: whatever packets a listing of fields
or rows is made of, the pair stays. The induction is on the packets, with the
numbers so far generalised. -/
theorem Counters.effect_listing (payloads : List Bytes) (c : Counters) :
    ((payloads.filterMap Notice.ofListing?).foldl Counters.keep c).effect = c.effect := by
  induction payloads generalizing c with
  | nil => rfl
  | cons payload payloads ih =>
    rw [List.filterMap_cons]
    cases hnotice : Notice.ofListing? payload with
    | none => exact ih c
    | some notice =>
      rw [List.foldl_cons, ih]
      -- A notice in a listing is that of an end marker, and keeping it leaves the pair.
      obtain ⟨reply, rfl⟩ : ∃ reply, notice = .eof reply := by
        rw [Notice.ofListing?, Notice.of?] at hnotice
        split at hnotice
        case isTrue =>
          obtain ⟨reply, -, rfl⟩ := Option.map_eq_some_iff.mp hnotice
          exact ⟨reply, rfl⟩
        case isFalse => cases hnotice
      rfl

/-- Nor does whatever a ping is answered, for of a confirmation it keeps the status
alone. -/
theorem Counters.effect_ping (notices : List Notice) (c : Counters) :
    (notices.foldl Operation.ping.keep c).effect = c.effect := by
  induction notices generalizing c with
  | nil => rfl
  | cons notice notices ih => exact ih _

/-! ### Calls that end in a confirmation -/

/-- What an operation answers that ends in a confirmation. A statement returns the
confirmation, and opening does not. -/
def Operation.confirmed : Operation → OkReply → Answer
  | execute _, reply => .outcome (.done reply)
  | query _, reply => .result (.done reply)
  | _, _ => .done

namespace Call

/-- The call has opened the session, or it was a statement and has ended. A
statement that has announced a result set has not ended with its call. -/
def concludes (call : Call) : Bool :=
  match call.operation, call.result with
  | .connect, .ok _ => true
  | .execute _, .ok (.outcome (.done _)) => true
  | .query _, .ok (.result (.done _)) => true
  | _, _ => false

/-- The confirmation that a call has ended in: it is the last that was received, and
returned where a confirmation is returned. -/
structure Confirms (call : Call) (reply : OkReply) : Prop where
  received : ∃ payload, call.received.getLast? = some payload
    ∧ Notice.ofReply? payload = some (.ok reply)
  result : call.result = .ok (call.operation.confirmed reply)

/-- What is known of statements after the call: what it was confirmed, and nothing
that was known before. -/
def Effects (call : Call) (effect : UInt64 × UInt64) : Prop :=
  ∃ reply, call.Confirms reply ∧ effect = reply.effect

/-- Where the last packet received is a confirmation that is kept, a call has its
effect. The packet is found in the call itself, as the last of what the inbox has
got more. -/
theorem effects_of {τ : Type} {operation : Operation} {s s' : Session τ} {reply : OkReply}
    {payloads : List Bytes} {payload : Bytes} (hinbox : s'.inbox = s.inbox ++ payloads)
    (hlast : payloads.getLast? = some payload) (hread : Notice.ofReply? payload = some (.ok reply))
    {effect : UInt64 × UInt64} (heffect : effect = reply.effect) :
    (Call.of operation s (.ok (operation.confirmed reply)) s').Effects effect := by
  refine ⟨reply, ⟨⟨payload, ?_, hread⟩, rfl⟩, heffect⟩
  rw [received_of hinbox, hlast]

end Call

namespace Session

section

variable {τ : Type} {s : Session τ} {received : List Bytes} {counters : Counters}

/-- What the last statement has done, as the session has it: two of its fields, side
by side. -/
def effect (s : Session τ) : UInt64 × UInt64 :=
  (s.affectedRows, s.lastInsertId)

/-- Where the numbers of a session are accounted for, so is the pair. -/
theorem Standing.effect_eq (h : Standing received counters s) : s.effect = counters.effect :=
  congrArg Counters.effect h.counters

/-- Where end markers have been read since, the pair is still that of before. -/
theorem Listed.effect_eq (h : Listed received counters s) : s.effect = counters.effect := by
  obtain ⟨payloads, hs⟩ := h
  rw [hs.effect_eq, Counters.effect_listing]

end

variable {τ : Type} [FiniteTransport τ]

/-- An opening that succeeds leaves what its confirmation says, and one that fails
leaves the pair as it was. -/
theorem leaves_connect (s : Session τ) :
    Leaves effect Call.concludes Call.Effects .connect s (Operation.connect.perform s).1.result
      (Operation.connect.perform s).2 := by
  apply report_of_ends (Leaves effect Call.concludes Call.Effects .connect s)
  refine (ends_connect_welcomed s).mono ?_ ?_
  · intro _ s' h
    obtain ⟨greeting, reply, ⟨payload, answer, hinbox, -, hread⟩, hrecord⟩ := h
    have heffect : s'.effect = reply.effect :=
      congrArg (fun record => (record.affectedRows, record.lastInsertId)) hrecord
    exact .said rfl (Call.effects_of hinbox rfl hread heffect)
  · intro e s' h
    exact .kept rfl (congrArg (fun record => (record.affectedRows, record.lastInsertId)) h)

/-- A statement that is confirmed leaves what the confirmation says. One that
announces a result set, or fails, leaves the pair as it was. -/
theorem leaves_execute (s : Session τ) (sql : Bytes) :
    Leaves effect Call.concludes Call.Effects (.execute sql) s
      ((Operation.execute sql).perform s).1.result ((Operation.execute sql).perform s).2 := by
  apply report_of_ends (Leaves effect Call.concludes Call.Effects (.execute sql) s)
  refine ((standing_self s).ends_execute_settled sql).mono ?_ ?_
  case refine_2 =>
    intro e s' h
    exact .kept rfl (congrArg Counters.effect h)
  intro outcome s' h
  obtain ⟨payload, hinbox, hleaves⟩ := h
  cases outcome with
  | done reply =>
    obtain ⟨hread, hcounters⟩ := hleaves
    exact .said rfl (Call.effects_of hinbox rfl hread (congrArg Counters.effect hcounters))
  | resultSet columns => exact .kept rfl (congrArg Counters.effect hleaves)

/-- The same goes for a query, for behind the announcement of a result set there are
no confirmations: only end markers are kept there, which say nothing about
statements. -/
theorem leaves_query (s : Session τ) (sql : String) :
    Leaves effect Call.concludes Call.Effects (.query sql) s
      ((Operation.query sql).perform s).1.result ((Operation.query sql).perform s).2 := by
  apply report_of_ends (Leaves effect Call.concludes Call.Effects (.query sql) s)
  rw [query, ends_bind]
  refine ((standing_self s).ends_execute_settled _).mono ?_ ?_
  case refine_2 =>
    intro e s' h
    exact .kept rfl (congrArg Counters.effect h)
  intro outcome s₁ h₁
  obtain ⟨payload, hinbox, hleaves⟩ := h₁
  cases outcome with
  | done reply =>
    obtain ⟨hread, hcounters⟩ := hleaves
    exact .said rfl (Call.effects_of hinbox rfl hread (congrArg Counters.effect hcounters))
  | resultSet columns =>
    -- From here on there are fields and rows, of which only the end markers are kept.
    have hlisted : Listed (s.inbox ++ [payload]) s.counters s₁ := by
      refine ⟨[], ?_, hleaves⟩
      rw [List.append_nil]
      exact hinbox
    have hkept {result : Except Error Answer} {s' : Session τ}
        (hopen : (Call.of (.query sql) s result s').concludes = false)
        (h : Listed (s.inbox ++ [payload]) s.counters s') :
        Leaves effect Call.concludes Call.Effects (.query sql) s result s' :=
      .kept hopen h.effect_eq
    rw [ends_bind]
    refine (maintains_listed_readFields s₁ hlisted).mono ?_ (fun _ _ h => hkept rfl h)
    intro fields s₂ h₂
    rw [ends_bind]
    refine (maintains_ensure _ _ s₂ h₂).mono ?_ (fun _ _ h => hkept rfl h)
    intro _ s₃ h₃
    rw [ends_bind]
    exact (maintains_listed_readRows s₃ h₃).mono (fun _ _ h => hkept rfl h)
      (fun _ _ h => hkept rfl h)

/-- The numbers of statements are decided by the calls that end in a confirmation:
the operations that may conclude have a law each, and for the others the account of
what they were told says that the pair stays. -/
theorem decided_effect : Decided (effect (τ := τ)) (0, 0) Call.concludes Call.Effects where
  ofTransport _ _ := rfl
  channel _ _ := rfl
  perform operation s := by
    obtain ⟨payloads, htold⟩ := perform_told operation s
    have heffect := htold.effect_eq
    cases operation with
    | connect => exact leaves_connect s
    | execute sql => exact leaves_execute s sql
    | query sql => exact leaves_query s sql
    | nextField => exact .kept rfl (heffect.trans (Counters.effect_listing payloads s.counters))
    | nextRow => exact .kept rfl (heffect.trans (Counters.effect_listing payloads s.counters))
    | showResults capacity =>
      exact .kept rfl (heffect.trans (Counters.effect_listing payloads s.counters))
    | ping => exact .kept rfl (heffect.trans (Counters.effect_ping _ s.counters))
    | close => exact .kept rfl heffect

/-- In every state that a session can be brought to, the affected rows and the
insert id are those of the confirmation that the latest of these calls has ended in:
a `connect` that succeeded, and an `execute` or a `query` that returned a
confirmation. They are zero if there was none, and no other call changes them. -/
theorem Calls.affectedRows_and_lastInsertId {s : Session τ} {calls : List Call} (h : Calls s calls) :
    (match calls.find? Call.concludes with
      | none => s.affectedRows = 0 ∧ s.lastInsertId = 0
      | some call => ∃ reply, call.Confirms reply
        ∧ s.affectedRows = reply.affectedRows ∧ s.lastInsertId = reply.lastInsertId)
      ∧ ∀ operation : Operation, (operation.call s).concludes = false →
        (operation.perform s).2.affectedRows = s.affectedRows
          ∧ (operation.perform s).2.lastInsertId = s.lastInsertId := by
  refine ⟨?_, ?_⟩
  · have hdecided := h.decided decided_effect
    cases hlatest : calls.find? Call.concludes with
    | none =>
      rw [hlatest] at hdecided
      exact Prod.mk.inj hdecided
    | some call =>
      rw [hlatest] at hdecided
      obtain ⟨reply, hconfirms, heffect⟩ := hdecided
      exact ⟨reply, hconfirms, Prod.mk.inj heffect⟩
  · intro operation hopen
    exact Prod.mk.inj (decided_effect.keeps hopen)

/-- A login, a statement that changes three rows and inserts the id 7, a ping that
is answered with nine rows, and a result set that is announced. The numbers are
those of the statement, and closing changes nothing either. -/
theorem affectedRows_and_lastInsertId_after_ping :
    let answers : Bytes := Packet.frame ⟨1, [0, 3, 7, 2, 0, 0, 0]⟩
      ++ Packet.frame ⟨1, [0, 9, 9, 2, 0, 0, 0]⟩ ++ Packet.frame ⟨1, [1]⟩
    let start := ofTransport (MemoryTransport.welcoming 7 answers) { user := "app" }
    let opened := (Operation.connect.perform start).2
    let changed := ((Operation.execute [0x55]).perform opened).2
    let pinged := (Operation.ping.perform changed).2
    let s := ((Operation.execute [0x53]).perform pinged).2
    let calls := [(Operation.execute [0x53]).call pinged, Operation.ping.call changed,
      (Operation.execute [0x55]).call opened, Operation.connect.call start]
    Calls s calls ∧ calls.find? Call.concludes = some ((Operation.execute [0x55]).call opened)
      ∧ (∃ reply, ((Operation.execute [0x55]).call opened).Confirms reply
        ∧ s.affectedRows = reply.affectedRows ∧ s.lastInsertId = reply.lastInsertId)
      ∧ s.affectedRows = 3 ∧ s.lastInsertId = 7
      ∧ (Operation.close.call s).concludes = false
      ∧ (Operation.close.perform s).2.affectedRows = s.affectedRows := by
  intro answers start opened changed pinged s calls
  have hstart : Calls start [] := .ofTransport _ _
  have hopened : Calls opened [Operation.connect.call start] := hstart.perform .connect
  have hchanged : Calls changed [(Operation.execute [0x55]).call opened,
      Operation.connect.call start] := hopened.perform (.execute [0x55])
  have h : Calls s calls := (hchanged.perform .ping).perform (.execute [0x53])
  -- The two latest calls are passed over, and the statement before them is found.
  have hlatest : calls.find? Call.concludes = some ((Operation.execute [0x55]).call opened) := by
    have hlisted : ((Operation.execute [0x53]).call pinged).concludes = false := by decide +kernel
    have hpinged : (Operation.ping.call changed).concludes = false := rfl
    have hconcludes : ((Operation.execute [0x55]).call opened).concludes = true := by
      decide +kernel
    simp only [calls, List.find?_cons, hlisted, hpinged, hconcludes]
  obtain ⟨heffect, hkept⟩ := Calls.affectedRows_and_lastInsertId h
  rw [hlatest] at heffect
  exact ⟨h, hlatest, heffect, by decide +kernel, by decide +kernel, rfl, (hkept .close rfl).1⟩

end Session

end SqlWire
