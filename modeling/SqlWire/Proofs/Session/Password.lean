import SqlWire.Proofs.Login
import SqlWire.Proofs.Session.Alike
import SqlWire.Proofs.Transport.Indifferent
import SqlWire.Proofs.Transport.Memory

/-!
# The password shows in nothing but the answer

A session knows its password all along, and it says a good deal: packets to its
server, events to its journal, errors to its caller. `run_of_two_passwords` compares
two sessions that differ in the password alone, over transports that do not mind
what is written. Whatever is asked of both comes to the same, and what they have
said is the same but for twenty bytes in each login, the answer to the server's
seed, which stands in the login that was written and in the journal's listing of it.

What the runs keep is that the sessions are alike (`Session.Alike`), where channels
are alike if their journals and the records of their transports are, entry by entry
(`TwoPasswords.Paired`). The one step that looks at the password is the login, and
it keeps this as well (`TwoPasswords.simulates_sendLogin`).

Neither password is empty. A session without one answers with no bytes at all, so
its login has another length and would tell it from one that has a password.
-/

set_option autoImplicit false

namespace SqlWire

open SqlWire.Action

/-- An event as a journal shows it, without the listing of a packet's bytes: the
level, the message and all the other details, among them the length. -/
def Event.outline (event : Event) : Level × String × List (String × Event.Detail) :=
  (event.level, event.message, event.details.filter (·.1 ≠ "bytes"))

/-- Of a packet that has been sent the outline leaves its number and its length.
What the bytes are is only in the listing that is left out. -/
theorem Event.outline_sent (sequence : UInt8) (payload : Bytes) :
    (sent sequence payload).outline = (.trace, "-> packet",
      [("sequence_id", .number sequence.toNat), ("len", .number payload.length)]) := by
  have hdetails : (packetDetails sequence payload).filter (·.1 ≠ "bytes")
      = [("sequence_id", .number sequence.toNat), ("len", .number payload.length)] := by
    rw [packetDetails]
    -- The dump is not evaluated: whatever it is, its detail is filtered out by name.
    generalize payload.hexDump = dump
    simp
  show (Level.trace, "-> packet", (packetDetails sequence payload).filter (·.1 ≠ "bytes"))
    = (Level.trace, "-> packet", _)
  rw [hdetails]

/-- A configuration and two passwords to go with it, neither of them empty. The
configuration's own password does not count, since each of the two takes its place. -/
structure TwoPasswords where
  config : Config
  first : String
  second : String
  first_ne : first ≠ ""
  second_ne : second ≠ ""

namespace TwoPasswords

variable (p : TwoPasswords)

/-- The configuration with the first password, which one of the two sessions is made
with. -/
def firstConfig : Config :=
  { p.config with password := some p.first }

/-- The configuration with the second password, which the other session is made
with. -/
def secondConfig : Config :=
  { p.config with password := some p.second }

/-- The logins that the passwords give for one seed, which are the same but for the
answer: twenty bytes behind the user and the length of the answer. -/
structure Logins (payload payload' : Bytes) : Prop where
  logins : ∃ seed, payload = (Login.ofConfig p.firstConfig seed).encode
    ∧ payload' = (Login.ofConfig p.secondConfig seed).encode
  answers : ∃ head answer answer' tail,
    payload = head ++ (Utf8.encode p.config.user ++ 0 :: 0x14 :: (answer ++ tail))
      ∧ payload' = head ++ (Utf8.encode p.config.user ++ 0 :: 0x14 :: (answer' ++ tail))
      ∧ head.length = 32 ∧ answer.length = 20 ∧ answer'.length = 20

/-- Two buffers that have been handed over at the same place of two runs: the same
bytes, or the packets of two such logins with one number. -/
inductive Buffers : Bytes → Bytes → Prop
  | same (buffer : Bytes) : Buffers buffer buffer
  | logins {payload payload' : Bytes} (sequence : UInt8) (h : p.Logins payload payload') :
      Buffers (Packet.frame ⟨sequence, payload⟩) (Packet.frame ⟨sequence, payload'⟩)

/-- Two calls at the same place of two records: the same call, or two that write
such buffers and come to the same. -/
inductive Calls : TransportCall → TransportCall → Prop
  | same (call : TransportCall) : Calls call call
  | writes {buffer buffer' : Bytes} (h : p.Buffers buffer buffer') (failure : Option IoError) :
      Calls (.write buffer failure) (.write buffer' failure)

/-- Two events at the same place of two journals: the same event, or the two that
list such logins. -/
inductive Events : Event → Event → Prop
  | same (event : Event) : Events event event
  | logins {payload payload' : Bytes} (sequence : UInt8) (h : p.Logins payload payload') :
      Events (.sent sequence payload) (.sent sequence payload')

variable {p} {payload payload' : Bytes}

/-- Two logins for one seed differ in the answer alone, whatever the seed is. Of the
answer only the length is used, which is that of a digest. -/
theorem logins_ofConfig (p : TwoPasswords) (seed : Bytes) :
    p.Logins (Login.ofConfig p.firstConfig seed).encode
      (Login.ofConfig p.secondConfig seed).encode := by
  obtain ⟨head, tail, hhead, hencode⟩ := Login.exists_encode_ofConfig_eq p.config seed
  obtain ⟨answer, -, hlength, hfirst⟩ := hencode p.first p.first_ne
  obtain ⟨answer', -, hlength', hsecond⟩ := hencode p.second p.second_ne
  exact ⟨⟨seed, rfl, rfl⟩, head, answer, answer', tail, hfirst, hsecond, hhead, hlength, hlength'⟩

/-- The two logins have the same length, since both answers have. So the headers of
their packets are the same. -/
theorem Logins.length_eq (h : p.Logins payload payload') : payload.length = payload'.length := by
  obtain ⟨head, answer, answer', tail, rfl, rfl, -, hlength, hlength'⟩ := h.answers
  simp [hlength, hlength']

/-- Two journals show a difference in the listing of bytes alone: what is left of
two paired events without it is the same. -/
theorem Events.outline_eq {event event' : Event} (h : p.Events event event') :
    event.outline = event'.outline := by
  cases h with
  | same => rfl
  | logins sequence h => rw [Event.outline_sent, Event.outline_sent, h.length_eq]

/-- The same bytes, or the same but for an answer that stands in them. This says
what paired buffers come to, without a word about logins. -/
def SameButAnswer (bs bs' : Bytes) : Prop :=
  bs = bs' ∨ ∃ front answer answer' back, bs = front ++ (answer ++ back)
    ∧ bs' = front ++ (answer' ++ back) ∧ answer.length = 20 ∧ answer'.length = 20

/-- Paired buffers are the same but for an answer. The logins are as long with
either password, so that the headers of their packets are the same too. -/
theorem Buffers.sameButAnswer {buffer buffer' : Bytes} (h : p.Buffers buffer buffer') :
    SameButAnswer buffer buffer' := by
  cases h with
  | same => exact .inl rfl
  | @logins payload payload' sequence h =>
    have hlengths := h.length_eq
    obtain ⟨head, answer, answer', tail, hfirst, hsecond, -, hlength, hlength'⟩ := h.answers
    rw [Packet.frame, Packet.frame, ← hlengths]
    -- The header is the same in both, whatever it says.
    generalize Header.encode ⟨payload.length, sequence⟩ = header
    rw [hfirst, hsecond]
    exact .inr ⟨header ++ (head ++ (Utf8.encode p.config.user ++ [0, 0x14])), answer, answer', tail,
      by simp, by simp, hlength, hlength'⟩

/-- What was written is paired as the calls are: other calls write nothing, and both
records have them at the same places. -/
theorem buffers_of_calls {τ ρ : Type} {t : Recorded τ} {r : Recorded ρ}
    (h : List.Forall₂ p.Calls t.calls r.calls) : List.Forall₂ p.Buffers t.buffers r.buffers := by
  refine List.rel_filterMap ?_ (List.rel_reverse h)
  intro call call' hcall
  cases hcall with
  | same call =>
    cases call with
    | write bs failure => exact .some (.same bs)
    | connect | readByte | available | close => exact .none
  | writes h failure => exact .some h

/-! ### Sessions with two passwords -/

section

variable {τ ρ : Type} {related : τ → ρ → Prop}

/-- The transports have been asked the same and are related, the journals have been
told the same, and the channels are due the same number and wait as long. -/
structure Paired (p : TwoPasswords) (related : τ → ρ → Prop) (c : Channel (Recorded τ))
    (d : Channel (Recorded ρ)) : Prop where
  transport : Recorded.Alike related p.Calls c.transport d.transport
  readAttempts : c.readAttempts = d.readAttempts
  sequence : c.sequence = d.sequence
  journal : List.Forall₂ p.Events c.journal d.journal

/-- Whatever a channel does by itself keeps two paired channels paired: entering an
event, counting, and going over to another transport. -/
theorem parallel_paired (p : TwoPasswords) (related : τ → ρ → Prop) :
    Channel.Parallel (Recorded.Alike related p.Calls) (p.Paired related) where
  transport h := h.transport
  withTransport h ht := ⟨ht, h.readAttempts, h.sequence, h.journal⟩
  noted event h := ⟨h.transport, h.readAttempts, h.sequence, .cons (.same event) h.journal⟩
  readAttempts h := h.readAttempts
  sequence h := h.sequence
  withSequence _ h := ⟨h.transport, h.readAttempts, rfl, h.journal⟩

/-- One configuration has the first password and the other one the second. So they
agree in everything that a session reads of them but in the answer to a seed. -/
def Configs (p : TwoPasswords) (c c' : Config) : Prop :=
  c = p.firstConfig ∧ c' = p.secondConfig

variable [Transport τ] [Transport ρ]

/-- The two sessions go through every step alike that does not look at the password.
This is what the laws about alike sessions ask of the transports, the channels and
the configurations. -/
theorem parallel (p : TwoPasswords) (hR : Indifferent related) :
    Session.Parallel (Recorded.Alike related p.Calls) (p.Paired related) p.Configs where
  transports := Recorded.bisimulation hR.toBisimulation .same
  channels := p.parallel_paired related
  config := by
    intro c c' hconfigs
    obtain ⟨rfl, rfl⟩ := hconfigs
    exact ⟨some p.first, rfl⟩

/-- The logins of both are sent alike. The transports do not mind which bytes they
are given, only how many, and of these there are as many. -/
theorem simulates_send_logins (hR : Indifferent related) (h : p.Logins payload payload') :
    Simulates (p.Paired related) (Channel.send payload) (Channel.send payload') := by
  refine (p.parallel_paired related).simulates_send_of_length h.length_eq ?_ ?_
  · intro c c' sequence hc
    exact ⟨hc.transport, hc.readAttempts, hc.sequence, .cons (.logins sequence h) hc.journal⟩
  · intro sequence
    have hlength : (Packet.frame ⟨sequence, payload⟩).length
        = (Packet.frame ⟨sequence, payload'⟩).length := by
      rw [Packet.length_frame, Packet.length_frame, h.length_eq]
    refine Recorded.simulates_recording (hR.writeAny hlength) ?_
    intro result
    exact .writes (.logins sequence h) _

/-- The step that looks at the password tells of nothing but the answer: the two
logins are sent alike, and what follows is the same for both. -/
theorem simulates_sendLogin (p : TwoPasswords) (hR : Indifferent related) (greeting : Greeting) :
    Simulates (Session.Alike (p.Paired related) p.Configs Eq) (Session.sendLogin greeting)
      (Session.sendLogin greeting) := by
  apply simulates_get_bind
  intro s r hs
  obtain ⟨hfirst, hsecond⟩ := hs.config
  dsimp only
  rw [hfirst, hsecond]
  have hsend := simulates_send_logins hR (p.logins_ofConfig greeting.seed)
  apply Simulates.agree _ hs
  refine .bind (Session.simulates_onChannel hsend) ?_
  intro _
  refine .bind (Session.simulates_state .loginSent) ?_
  intro _
  exact (p.parallel hR).simulates_note _

/-- What can be found out about two sessions without looking at their configurations
is the same but for the answers in logins. The buffers are compared twice: once as
packets of logins, and once as bytes that differ in twenty at most. -/
structure Indistinct (p : TwoPasswords) (related : τ → ρ → Prop) (s : Session (Recorded τ))
    (r : Session (Recorded ρ)) : Prop where
  state : s.state = r.state
  bookkeeping : s.bookkeeping = r.bookkeeping
  description : s.describe = r.describe
  transport : related s.channel.transport.inner r.channel.transport.inner
  isConnected : Transport.isConnected s.channel.transport
    = Transport.isConnected r.channel.transport
  buffers : List.Forall₂ p.Buffers s.channel.transport.buffers r.channel.transport.buffers
  bytes : List.Forall₂ SameButAnswer s.channel.transport.buffers r.channel.transport.buffers
  events : List.Forall₂ p.Events s.takeEvents.1 r.takeEvents.1
  outlines : s.takeEvents.1.map Event.outline = r.takeEvents.1.map Event.outline

/-- Alike sessions are indistinct: each of the things that can be found out is one
of those that the relation compares, or follows from them entry by entry. -/
theorem indistinct_of_alike (hR : Indifferent related) {s : Session (Recorded τ)}
    {r : Session (Recorded ρ)} (h : Session.Alike (p.Paired related) p.Configs Eq s r) :
    p.Indistinct related s r := by
  have hbuffers := buffers_of_calls h.channel.transport.calls
  have hevents : List.Forall₂ p.Events s.takeEvents.1 r.takeEvents.1 :=
    List.rel_reverse h.channel.journal
  refine ⟨h.state, h.bookkeeping, (p.parallel hR).describe_eq h, h.channel.transport.inner,
    hR.isConnected h.channel.transport.inner, hbuffers,
    hbuffers.imp fun _ _ => Buffers.sameButAnswer, hevents, ?_⟩
  rw [← List.forall₂_eq_eq_eq, List.forall₂_map_left_iff, List.forall₂_map_right_iff]
  exact hevents.imp fun _ _ he => Events.outline_eq he

end

/-- Two sessions that differ in the password alone, over transports that behave
alike and do not mind what is written, come to the same whatever is asked of them:
the same answers and errors, and nothing to be found out afterwards that would tell
the one from the other but the answers in logins. -/
theorem run_of_two_passwords {τ ρ : Type} [FiniteTransport τ] [FiniteTransport ρ]
    {related : τ → ρ → Prop} (p : TwoPasswords) (hR : Indifferent related) {t : τ} {t' : ρ}
    (ht : related t t') (operations : List Operation) :
    let first := Session.run operations (Session.ofTransport { inner := t } p.firstConfig)
    let second := Session.run operations (Session.ofTransport { inner := t' } p.secondConfig)
    first.1 = second.1 ∧ p.Indistinct related first.2 second.2 := by
  have hstart : Session.Alike (p.Paired related) p.Configs Eq
      (Session.ofTransport { inner := t } p.firstConfig)
      (Session.ofTransport { inner := t' } p.secondConfig) :=
    ⟨⟨⟨ht, .nil⟩, rfl, rfl, .nil⟩, ⟨rfl, rfl⟩, rfl, rfl⟩
  obtain ⟨hreports, halike⟩ := (p.parallel hR).run (p.simulates_sendLogin hR) operations hstart
  exact ⟨hreports, indistinct_of_alike hR halike⟩

/-- Two sessions in memory that log in with different answers and ask for a sign of
life that does not come. One of the transports has been written to before, which its
future behaviour does not depend on. -/
theorem run_of_two_passwords_welcoming :
    let p : TwoPasswords := ⟨{ user := "app" }, "secret", "terces", by decide, by decide⟩
    let t := MemoryTransport.welcoming 7 []
    let t' := { t with written := [1], attempts := 5 }
    let operations := [Operation.connect, .ping, .close]
    let first := Session.run operations (Session.ofTransport { inner := t } p.firstConfig)
    let second := Session.run operations (Session.ofTransport { inner := t' } p.secondConfig)
    Indifferent MemoryTransport.SameFuture ∧ MemoryTransport.SameFuture t t'
      ∧ first.1.map Report.answer? = [some .done, none, some .done]
      ∧ first.2.channel.transport.buffers ≠ second.2.channel.transport.buffers
      ∧ first.1 = second.1 ∧ p.Indistinct MemoryTransport.SameFuture first.2 second.2 := by
  intro p t t' operations first second
  have hfuture : MemoryTransport.SameFuture t t' := ⟨rfl, rfl, rfl⟩
  exact ⟨MemoryTransport.indifferent, hfuture, by decide +kernel, by decide +kernel,
    run_of_two_passwords p MemoryTransport.indifferent hfuture operations⟩

end TwoPasswords

end SqlWire
