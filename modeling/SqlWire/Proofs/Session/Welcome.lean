import SqlWire.Proofs.Session.Notices

/-!
# What an opening receives and remembers

An opening that succeeds has received two packets, a greeting and a confirmation,
and what the session remembers afterwards is said in these two (`Welcomed`). One
that fails has changed nothing of what the session remembers
(`ends_connect_welcomed`). The packets are those in the journal of the session,
whatever the transport is.

The invariant of the steps in between is that the inbox has grown by so many packets
while the record is what it was (`Holding`). Both packets are put on record at once,
when the second has been read and is a confirmation.
-/

set_option autoImplicit false

namespace SqlWire.Session

open SqlWire.Action

variable {τ : Type} {s : Session τ} {received : List Bytes} {record : Bookkeeping}

/-- What a session remembers after a greeting and a confirmation. The number of
columns is not of this, and stays. -/
def Bookkeeping.opened (record : Bookkeeping) (greeting : Greeting) (reply : OkReply) :
    Bookkeeping :=
  { record with
    serverVersion := some greeting.serverVersion
    connectionId := greeting.threadId
    affectedRows := reply.affectedRows
    lastInsertId := reply.lastInsertId
    statusFlags := reply.statusFlags
    warnings := reply.warnings }

/-- A greeting and a confirmation have been received on the way from `s` to `s'`,
and what they say is remembered. -/
structure Welcomed (s s' : Session τ) (greeting : Greeting) (reply : OkReply) : Prop where
  received : ∃ payload answer, s'.inbox = s.inbox ++ [payload, answer]
    ∧ Greeting.parse payload = .ok greeting ∧ Notice.ofReply? answer = some (.ok reply)
  record : s'.bookkeeping = s.bookkeeping.opened greeting reply

/-- What the session has received, and what it remembers. The first grows while the
session is opened, and the second does not until the end. -/
structure Holding (received : List Bytes) (record : Bookkeeping) (s : Session τ) : Prop where
  inbox : s.inbox = received
  record : s.bookkeeping = record

/-- Of the channel this is about the inbox alone, so calls that receive nothing keep
it. -/
theorem sees_holding : Sees Channel.inbox (Holding (τ := τ) received record) :=
  fun _ _ hc hs => ⟨hc.trans hs.inbox, hs.record⟩

/-- An event can always be entered, and one that is no arrival leaves the inbox. -/
theorem Holding.ends_note (h : Holding received record s) {event : Event}
    (hevent : event.arrival? = none) :
    Ends (note event) s (fun _ s' => Holding received record s') (fun _ _ => False) := by
  rw [note, onChannel, ends_focus]
  exact sees_holding s (s.channel.noted event)
    (by rw [Channel.inbox_noted, hevent]; exact List.append_nil _) h

variable [Transport τ]

/-- What is received is one packet more in the inbox, and is not remembered yet. A
failure to receive leaves the record. -/
theorem Holding.ends_receive (h : Holding received record s) :
    Ends receive s (fun packet s' => Holding (received ++ [packet.payload]) record s')
      (fun _ s' => s'.bookkeeping = record) := by
  rw [receive, onChannel, ends_focus]
  refine (Channel.ends_receive_inbox s.channel).mono ?_ (fun _ _ _ => h.record)
  intro packet c hc
  have hc : c.inbox = s.inbox ++ [packet.payload] := hc
  rw [h.inbox] at hc
  exact ⟨hc, h.record⟩

/-- The greeting is received, and nothing of it remembered yet: it takes effect when
the server has accepted the login. -/
theorem Holding.ends_readGreeting (h : Holding received record s) :
    Ends readGreeting s
      (fun greeting s' => ∃ payload, Greeting.parse payload = .ok greeting
        ∧ Holding (received ++ [payload]) record s')
      (fun _ s' => s'.bookkeeping = record) := by
  have hstart : Maintains (Holding received record) (startExchange (τ := τ)) :=
    sees_holding.maintains_onChannel fun _ => Channel.maintains_inbox_resetSequence
  rw [readGreeting, ends_bind]
  refine (hstart s h).mono ?_ (fun _ _ h => h.record)
  intro _ s₁ h₁
  rw [ends_bind]
  refine h₁.ends_receive.mono ?_ (fun _ _ h => h)
  intro packet s₂ h₂
  split
  case h_1 greeting hparse =>
    -- Only the state has changed, and the record does not hold it.
    have hgreeted : Holding (received ++ [packet.payload]) record { s₂ with state := .greeted } :=
      ⟨h₂.inbox, h₂.record⟩
    rw [ends_bind, ends_modify]
    refine (hgreeted.ends_note rfl).bind_of_ok ?_
    intro _ _ h
    exact ⟨_, hparse, h⟩
  case h_2 => exact h₂.record

/-- Both packets are remembered once the second one is a confirmation. Whatever else
it is, the record stays what it was. -/
theorem Holding.ends_readVerdict (h : Holding received record s) (greeting : Greeting) :
    Ends (readVerdict greeting) s
      (fun _ s' => ∃ answer reply, Notice.ofReply? answer = some (.ok reply)
        ∧ Holding (received ++ [answer]) (record.opened greeting reply) s')
      (fun _ s' => s'.bookkeeping = record) := by
  rw [readVerdict, ends_bind]
  refine h.ends_receive.mono ?_ (fun _ _ h => h)
  intro packet s₁ h₁
  cases hkind : packet.kind with
  | ok =>
    dsimp only
    rw [ends_bind]
    refine (ends_decode _ _ packet s₁).mono ?_ ?_
    · intro reply s₂ hdecoded
      obtain ⟨hread, rfl⟩ := hdecoded
      -- Only here is anything of the two packets kept, and then all of it.
      have hopened : Holding (received ++ [packet.payload]) (record.opened greeting reply)
          { s₂ with
            state := .authenticated
            connectionId := greeting.threadId
            serverVersion := some greeting.serverVersion
            affectedRows := reply.affectedRows
            lastInsertId := reply.lastInsertId
            statusFlags := reply.statusFlags
            warnings := reply.warnings } :=
        ⟨h₁.inbox, by rw [← h₁.record]; rfl⟩
      have hanswer : Notice.ofReply? packet.payload = some (.ok reply) :=
        Notice.of?_of_read hkind hread
      simp only [recordOk, ends_bind, ends_modify, ends_get]
      refine (hopened.ends_note rfl).mono ?_ (fun _ _ hfalse => hfalse.elim)
      intro _ s₃ h₃
      exact ⟨packet.payload, reply, hanswer, h₃⟩
    · intro e s₂ hundecoded
      obtain ⟨-, -, rfl⟩ := hundecoded
      exact h₁.record
  | error =>
    dsimp only
    rw [ends_bind]
    refine (maintains_decode _ _ _ packet s₁ h₁).mono ?_ (fun _ _ h => h.record)
    intro reply s₂ h₂
    -- A refusal is remembered as a state, which is not in the record.
    have hrejected : Holding (received ++ [packet.payload]) record { s₂ with state := .rejected } :=
      ⟨h₂.inbox, h₂.record⟩
    rw [ends_bind, ends_modify]
    refine (hrejected.ends_note rfl).bind_of_ok ?_
    intro _ _ h
    exact h.record
  | eof | data => exact h₁.record

/-- An opening that succeeds leaves what its two packets say, and one that fails
what has been known before. What it is given up with, where it is given up, touches
neither. -/
theorem ends_connect_welcomed (s : Session τ) :
    Ends connect s (fun _ s' => ∃ greeting reply, s.Welcomed s' greeting reply)
      (fun _ s' => s'.bookkeeping = s.bookkeeping) := by
  simp only [connect, ends_bind, ends_get, ends_ensure, ends_ofExcept, ends_modify, ends_tryCatch,
    ends_throw]
  split
  case isFalse => trivial
  split
  case h_2 => trivial
  -- From here on a failure is caught and abandoned, which touches neither inbox nor record.
  have hstart : Holding s.inbox s.bookkeeping { s with state := .connecting } := ⟨rfl, rfl⟩
  refine (sees_holding.maintains_openTransport _ _ _ _ hstart).mono ?_ (fun _ _ h => h.record)
  intro _ s₁ h₁
  rw [login, ends_bind]
  refine h₁.ends_readGreeting.mono ?_ (fun _ _ h => h)
  intro greeting s₂ h₂
  obtain ⟨payload, hparse, h₂⟩ := h₂
  rw [ends_bind]
  have hsent : Maintains (Holding (s.inbox ++ [payload]) s.bookkeeping)
      (sendLogin (τ := τ) greeting) :=
    sees_holding.maintains_sendLogin (fun _ _ hs => ⟨hs.inbox, hs.record⟩) greeting
  refine (hsent s₂ h₂).mono ?_ (fun _ _ h => h.record)
  intro _ s₃ h₃
  refine (h₃.ends_readVerdict greeting).mono ?_ (fun _ _ h => h)
  intro _ s₄ h₄
  obtain ⟨answer, reply, hread, h₄⟩ := h₄
  refine ⟨greeting, reply, ⟨payload, answer, ?_, hparse, hread⟩, h₄.record⟩
  rw [h₄.inbox, List.append_assoc]
  rfl

end SqlWire.Session
