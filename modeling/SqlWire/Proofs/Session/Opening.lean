import SqlWire.Proofs.Channel.Failure
import SqlWire.Proofs.Config
import SqlWire.Proofs.Session.Steady
import SqlWire.Proofs.Transport.Recorded
import SqlWire.Transport.Memory

/-!
# A session opens whole or not at all

`connect_all_or_nothing` is the law of `connect` over any transport, with the calls
to it on record. A session whose transport is connected, or whose configuration
cannot work, is refused before anything is done. Otherwise `connect` either
succeeds, and the session holds what the server's greeting and its confirmation said
(`Opened`), or fails, and it holds what it held before (`Abandoned`): the transport
has been closed once, after all else, and a refusal of the credentials is the one
failure that the state remembers.

On the way there the state changes three times and packets go back and forth. What
none of this touches is `Underway`: the bookkeeping, a transport that has not been
closed, and a state other than rejected. Each step keeps it and fails with an error
that is no refusal; only the server's verdict leaves it.
-/

set_option autoImplicit false

namespace SqlWire.Session

open SqlWire.Action

variable {τ : Type}

/-- What a successful `connect` leaves of the session `s`, by the packet of the
greeting and the packet of the confirmation that were read on the way. -/
structure Opened (s s' : Session (Recorded τ)) (greetingPacket replyPacket : Packet)
    (greeting : Greeting) (reply : OkReply) : Prop where
  /-- The bytes that the transport delivered are the two packets and no more. -/
  taken : s'.channel.transport.taken
    = s.channel.transport.taken ++ greetingPacket.frame ++ replyPacket.frame
  greetingNumber : greetingPacket.sequence = 0
  replyNumber : replyPacket.sequence = 2
  parsesGreeting : Greeting.parse greetingPacket.payload = .ok greeting
  replyKind : replyPacket.kind = .ok
  readsReply : OkReply.read.run? replyPacket.payload = some reply
  state : s'.state = .authenticated
  bookkeeping : s'.bookkeeping = {
    serverVersion := some greeting.serverVersion
    connectionId := greeting.threadId
    columnCount := s.columnCount
    affectedRows := reply.affectedRows
    lastInsertId := reply.lastInsertId
    statusFlags := reply.statusFlags
    warnings := reply.warnings }
  unclosed : s.channel.transport.Unclosed s'.channel.transport

/-- What a `connect` that failed with `e` leaves of the session `s`: a closed
transport, a state that says why, and the bookkeeping of before. -/
structure Abandoned (s : Session (Recorded τ)) (e : Error) (s' : Session (Recorded τ)) : Prop where
  /-- The transport has been closed once, by the last call made to it. -/
  closed : ∃ calls, s'.channel.transport.calls = .close :: (calls ++ s.channel.transport.calls)
    ∧ .close ∉ calls
  state : s'.state = if e.isAuthFailure then .rejected else .disconnected
  bookkeeping : s'.bookkeeping = s.bookkeeping

/-- Nothing that counts has happened yet to the session `s` that is being opened.
The state has moved on, but not to a rejection. -/
structure Underway (s s' : Session (Recorded τ)) : Prop where
  bookkeeping : s'.bookkeeping = s.bookkeeping
  unclosed : s.channel.transport.Unclosed s'.channel.transport
  state : s'.state ≠ .rejected

/-- The opening of `s` has failed, with the transport not closed yet. The state
tells whether it was the credentials. -/
structure Failed (s : Session (Recorded τ)) (e : Error) (s' : Session (Recorded τ)) : Prop where
  bookkeeping : s'.bookkeeping = s.bookkeeping
  unclosed : s.channel.transport.Unclosed s'.channel.transport
  state : s'.state = .rejected ↔ e.isAuthFailure = true

/-- A step on the way fails with an error that is no refusal, and leaves all as it
was. -/
theorem Underway.failed {s s' : Session (Recorded τ)} {e : Error} (h : s.Underway s')
    (he : e.isAuthFailure = false) : s.Failed e s' where
  bookkeeping := h.bookkeeping
  unclosed := h.unclosed
  state := by
    rw [he]
    exact iff_of_false h.state Bool.false_ne_true

variable [Transport τ]

/-- Closing the transport turns a failure into what is left of it. The state is made
from the failure: only a session that was rejected stays so. -/
theorem Failed.abandoned {s s' : Session (Recorded τ)} {e : Error} (h : s.Failed e s') :
    s.Abandoned e s'.abandon where
  closed := by
    obtain ⟨calls, hcalls, hclose⟩ := h.unclosed
    exact ⟨calls, congrArg (TransportCall.close :: ·) hcalls, hclose⟩
  state := by
    by_cases hauth : e.isAuthFailure = true
    · simp [abandon, hauth, h.state.mpr hauth]
    · simp [abandon, hauth, mt h.state.mp hauth]
  bookkeeping := h.bookkeeping

/-! ### The steps of an opening -/

/-- Connecting the transport, in several attempts if need be, reads nothing and
closes nothing. -/
theorem ends_openTransport_underway {s : Session (Recorded τ)} (remaining made : Nat)
    (last : Option IoError) (s₁ : Session (Recorded τ)) (h₁ : s.Underway s₁) :
    Ends (openTransport remaining made last) s₁
      (fun _ s' => s.Underway s' ∧ s'.channel.transport.taken = s₁.channel.transport.taken)
      (fun e s' => s.Failed e s') := by
  apply ends_openTransport (I := fun s' =>
    s.Underway s' ∧ s'.channel.transport.taken = s₁.channel.transport.taken)
  · intro s₂ event h₂
    obtain ⟨hway, htaken⟩ := h₂
    exact ⟨⟨hway.bookkeeping, hway.unclosed, hway.state⟩, htaken⟩
  · intro host port s₂ h₂
    obtain ⟨hway, htaken⟩ := h₂
    -- An attempt is recorded as a call that neither closes nor delivers, however it ends.
    have hcall := (Recorded.maintains_unclosed_connect _ host port _ hway.unclosed).and
      (Recorded.maintains_taken_connect _ host port _ htaken)
    refine hcall.mono ?_ ?_
    · intro _ t ht
      obtain ⟨hunclosed, htaken'⟩ := ht
      exact ⟨⟨hway.bookkeeping, hunclosed, hway.state⟩, htaken'⟩
    · intro _ t ht
      obtain ⟨hunclosed, htaken'⟩ := ht
      exact ⟨⟨hway.bookkeeping, hunclosed, hway.state⟩, htaken'⟩
  · intro _ _ _ s₂ h₂
    exact h₂.1.failed rfl
  · exact ⟨h₁, rfl⟩

/-- Within a session, a packet that is received is what the transport delivered
meanwhile. -/
theorem ends_receive_underway {s : Session (Recorded τ)} (s₁ : Session (Recorded τ))
    (h₁ : s.Underway s₁) :
    Ends receive s₁
      (fun p s' => s.Underway s' ∧ p.sequence = s₁.channel.sequence
        ∧ s'.channel.sequence = s₁.channel.sequence + 1
        ∧ s'.channel.transport.taken = s₁.channel.transport.taken ++ p.frame)
      (fun e s' => s.Failed e s') := by
  rw [receive, onChannel, ends_focus]
  -- Three laws of the channel: no call that closes, the bytes of the packet, no refusal.
  have hopen := Channel.maintains_receive (Recorded.readsKeep_unclosed s.channel.transport)
    s₁.channel h₁.unclosed
  have htakes := Channel.ends_receive_taken s₁.channel
  have hfails := Channel.failsOnly_receive s₁.channel
  apply (hopen.and (htakes.and hfails)).mono
  · intro p c h
    obtain ⟨hunclosed, ⟨htaken, hnumber, hnext⟩, -⟩ := h
    exact ⟨⟨h₁.bookkeeping, hunclosed, h₁.state⟩, hnumber, hnext, htaken⟩
  · intro e c h
    obtain ⟨hunclosed, -, hfailure⟩ := h
    exact Underway.failed ⟨h₁.bookkeeping, hunclosed, h₁.state⟩ hfailure.notRefused

/-- Within a session, sending moves the number on and reads nothing. A failure to
send is no refusal of the credentials. -/
theorem ends_send_underway {s : Session (Recorded τ)} (payload : Bytes)
    (s₁ : Session (Recorded τ)) (h₁ : s.Underway s₁) :
    Ends (send payload) s₁
      (fun _ s' => s.Underway s' ∧ s'.channel.sequence = s₁.channel.sequence + 1
        ∧ s'.channel.transport.taken = s₁.channel.transport.taken)
      (fun e s' => s.Failed e s') := by
  rw [send, onChannel, ends_focus]
  -- What a write leaves open, takes, numbers and fails with are told one by one.
  have hopen := Channel.maintains_send (Recorded.maintains_unclosed_write s.channel.transport)
    payload s₁.channel h₁.unclosed
  have htakes := Channel.maintains_send (Recorded.maintains_taken_write _) payload s₁.channel rfl
  have hnumbers := Channel.ends_send_sequence payload s₁.channel
  have hfails := Channel.failsOnly_send payload s₁.channel
  apply (hopen.and (htakes.and (hnumbers.and hfails))).mono
  · intro _ c h
    obtain ⟨hunclosed, htaken, hnext, -⟩ := h
    exact ⟨⟨h₁.bookkeeping, hunclosed, h₁.state⟩, hnext, htaken⟩
  · intro e c h
    obtain ⟨hunclosed, -, -, hfailure⟩ := h
    exact Underway.failed ⟨h₁.bookkeeping, hunclosed, h₁.state⟩ hfailure.notRefused

/-- What kept a greeting from being understood is no refusal of the credentials,
since none have been shown yet. -/
theorem isAuthFailure_toError (defect : Greeting.Defect) :
    defect.toError.isAuthFailure = false := by
  cases defect <;> rfl

/-- The greeting is the first packet of the exchange, whatever number was due
before. Nothing of it is remembered. -/
theorem ends_readGreeting_underway {s : Session (Recorded τ)} (s₁ : Session (Recorded τ))
    (h₁ : s.Underway s₁) :
    Ends readGreeting s₁
      (fun greeting s' => s.Underway s' ∧ s'.channel.sequence = 1
        ∧ ∃ p : Packet, p.sequence = 0 ∧ Greeting.parse p.payload = .ok greeting
          ∧ s'.channel.transport.taken = s₁.channel.transport.taken ++ p.frame)
      (fun e s' => s.Failed e s') := by
  simp only [readGreeting, startExchange, Channel.resetSequence, onChannel, ends_bind, ends_focus,
    ends_modify]
  refine Ends.mono (ends_receive_underway _ ?_) ?_ (fun _ _ h => h)
  · exact ⟨h₁.bookkeeping, h₁.unclosed, h₁.state⟩
  · intro p s₂ h₂
    obtain ⟨hway, hnumber, hnext, htaken⟩ := h₂
    -- A greeting that does not parse is a failure, but never one of authentication.
    split
    case h_1 greeting hparse =>
      simp only [note, Channel.note, onChannel, ends_bind, ends_focus, ends_modify, ends_pure]
      exact ⟨⟨hway.bookkeeping, hway.unclosed, by simp⟩, hnext, p, hnumber, hparse, htaken⟩
    case h_2 defect hparse =>
      exact hway.failed (isAuthFailure_toError defect)

/-- The login is the second packet of the exchange, and no byte is read for it. -/
theorem ends_sendLogin_underway {s : Session (Recorded τ)} (greeting : Greeting)
    (s₁ : Session (Recorded τ)) (h₁ : s.Underway s₁) :
    Ends (sendLogin greeting) s₁
      (fun _ s' => s.Underway s' ∧ s'.channel.sequence = s₁.channel.sequence + 1
        ∧ s'.channel.transport.taken = s₁.channel.transport.taken)
      (fun e s' => s.Failed e s') := by
  rw [sendLogin, ends_bind, ends_get]
  apply Ends.bind (ends_send_underway _ s₁ h₁)
  intro _ s₂ h₂
  obtain ⟨hway, hnext, htaken⟩ := h₂
  simp only [note, Channel.note, onChannel, ends_bind, ends_modify, ends_focus]
  exact ⟨⟨hway.bookkeeping, hway.unclosed, by simp⟩, hnext, htaken⟩

/-- The server's verdict is the only thing on the way that is kept, be it a
confirmation or a refusal. -/
theorem ends_readVerdict_underway {s : Session (Recorded τ)} (greeting : Greeting)
    (s₁ : Session (Recorded τ)) (h₁ : s.Underway s₁) :
    Ends (readVerdict greeting) s₁
      (fun _ s' => ∃ (q : Packet) (reply : OkReply), q.sequence = s₁.channel.sequence
        ∧ q.kind = .ok ∧ OkReply.read.run? q.payload = some reply
        ∧ s'.channel.transport.taken = s₁.channel.transport.taken ++ q.frame
        ∧ s.channel.transport.Unclosed s'.channel.transport ∧ s'.state = .authenticated
        ∧ s'.bookkeeping = {
          serverVersion := some greeting.serverVersion
          connectionId := greeting.threadId
          columnCount := s.columnCount
          affectedRows := reply.affectedRows
          lastInsertId := reply.lastInsertId
          statusFlags := reply.statusFlags
          warnings := reply.warnings })
      (fun e s' => s.Failed e s') := by
  apply Ends.bind (ends_receive_underway s₁ h₁)
  intro q s₂ h₂
  obtain ⟨hway, hnumber, -, htaken⟩ := h₂
  cases hkind : q.kind with
  | ok =>
    simp only [decodeOk, decode, ends_bind]
    split
    case h_1 reply hreply =>
      simp only [recordOk, note, Channel.note, onChannel, ends_get, ends_focus, ends_modify,
        ends_pure]
      have hcount : s₂.columnCount = s.columnCount :=
        congrArg Bookkeeping.columnCount hway.bookkeeping
      refine ⟨q, reply, hnumber, hkind, hreply, htaken, hway.unclosed, trivial, ?_⟩
      simp [bookkeeping, hcount]
    case h_2 => exact hway.failed rfl
  | error =>
    simp only [decodeErr, decode, ends_bind]
    split
    -- The one place where the state becomes rejected, and where the error is a refusal.
    case h_1 reply hreply =>
      simp only [note, Channel.note, onChannel, ends_focus, ends_modify, ends_pure, ends_throw]
      exact ⟨hway.bookkeeping, hway.unclosed, iff_of_true rfl rfl⟩
    case h_2 => exact hway.failed rfl
  | eof | data => exact hway.failed rfl

/-- A login that goes well leaves the session opened by the two packets that it has
read, and any other leaves it failed. The steps before the verdict keep all that
counts. -/
theorem ends_login_underway {s : Session (Recorded τ)} (s₁ : Session (Recorded τ))
    (h₁ : s.Underway s₁) (htaken₁ : s₁.channel.transport.taken = s.channel.transport.taken) :
    Ends login s₁ (fun _ s' => ∃ p q greeting reply, Opened s s' p q greeting reply)
      (fun e s' => s.Failed e s') := by
  apply Ends.bind (ends_readGreeting_underway s₁ h₁)
  intro greeting s₂ h₂
  obtain ⟨hway₂, hsequence₂, p, hp, hparse, htaken₂⟩ := h₂
  apply Ends.bind (ends_sendLogin_underway greeting s₂ hway₂)
  intro _ s₃ h₃
  obtain ⟨hway₃, hsequence₃, htaken₃⟩ := h₃
  refine (ends_readVerdict_underway greeting s₃ hway₃).mono ?_ (fun _ _ h => h)
  intro _ s₄ h₄
  obtain ⟨q, reply, hq, hkind, hreply, htaken₄, hunclosed, hstate, hbookkeeping⟩ := h₄
  refine ⟨p, q, greeting, reply, ?_, hp, ?_, hparse, hkind, hreply, hstate, hbookkeeping,
    hunclosed⟩
  · rw [htaken₄, htaken₃, htaken₂, htaken₁]
  -- The login has taken the number between those of the two packets.
  · rw [hq, hsequence₃, hsequence₂]
    rfl

/-- Connecting is all or nothing. Where the transport is connected or the
configuration cannot work, it fails and leaves the session, its transport and the
record of calls as they are. Otherwise it succeeds with all that the greeting and
the confirmation said, or it fails, closes the transport as its last act and leaves
the bookkeeping as it was. -/
theorem connect_all_or_nothing (s : Session (Recorded τ)) :
    ((Transport.isConnected s.channel.transport = true ∨ ∃ e, s.config.validate = .error e) →
      ∃ e, connect.run s = .error e s)
    ∧ (Transport.isConnected s.channel.transport = false → s.config.validate = .ok () →
      Ends connect s (fun _ s' => ∃ p q greeting reply, Opened s s' p q greeting reply)
        (fun e s' => s.Abandoned e s')) := by
  refine ⟨run_connect_refused, ?_⟩
  intro hclosed hvalid
  simp only [connect, hclosed, hvalid, ends_bind, ends_get, ends_ensure, ends_ofExcept, ends_modify,
    ends_tryCatch, ends_throw, if_true]
  refine Ends.mono (ends_openTransport_underway _ _ _ _ ?_) ?_ (fun _ _ h => h.abandoned)
  · exact ⟨rfl, .refl _, by simp⟩
  · intro _ s₁ h₁
    obtain ⟨hway, htaken⟩ := h₁
    exact (ends_login_underway s₁ hway htaken).mono (fun _ _ h => h) (fun _ _ h => h.abandoned)

/-- A transport that is connected already is left alone; one that refuses every
attempt is closed at the end of them. -/
theorem connect_all_or_nothing_of_memory :
    let linked : Session (Recorded MemoryTransport) :=
      ofTransport { inner := { connected := true } } { user := "app" }
    let refused : Session (Recorded MemoryTransport) :=
      ofTransport { inner := { refusals := 3 } } { user := "app" }
    Transport.isConnected linked.channel.transport = true
      ∧ (∃ e, connect.run linked = .error e linked)
      ∧ Transport.isConnected refused.channel.transport = false
      ∧ refused.config.validate = .ok ()
      ∧ Ends connect refused
        (fun _ s' => ∃ p q greeting reply, Opened refused s' p q greeting reply)
        (fun e s' => refused.Abandoned e s') := by
  intro linked refused
  have hlinked : Transport.isConnected linked.channel.transport = true := rfl
  have hrefused : Transport.isConnected refused.channel.transport = false := rfl
  have hvalid : refused.config.validate = .ok () :=
    Config.validate_eq_ok_iff.mpr (by decide +kernel)
  exact ⟨hlinked, (connect_all_or_nothing linked).1 (.inl hlinked), hrefused, hvalid,
    (connect_all_or_nothing refused).2 hrefused hvalid⟩

end SqlWire.Session
