import SqlWire.Proofs.Channel.Inbox
import SqlWire.Proofs.Session.Exchange
import SqlWire.Proofs.Session.Steady

/-!
# What a session knows from OK and EOF packets

Four numbers of a session come from OK and EOF packets of the server: affected rows,
insert id, status flags and warnings. Which packets these are follows from the
payloads that an operation receives (`Operation.notices`): an OK packet in the place
of the reply to a login or a command, and an EOF packet behind fields or rows, if it
can be read. `Operation.keep` says what is kept of one.

An operation receives some packets, keeps what it keeps of the notices among them,
one after the other, and does nothing else to the numbers, whether it succeeds or
fails (`perform_told`).
-/

set_option autoImplicit false

namespace SqlWire

open SqlWire.Action

/-- A packet that says how things stand: a confirmation, or the end of what was
listed. -/
inductive Notice where
  | ok (reply : OkReply)
  | eof (reply : EofReply)
deriving DecidableEq, Repr

namespace Notice

/-- The status flags that a notice has. Either kind has them, which is why they
outlast the other numbers. -/
def statusFlags : Notice → UInt16
  | ok reply => reply.statusFlags
  | eof reply => reply.statusFlags

/-- The number of warnings that a notice has. Either kind has this one as well. -/
def warnings : Notice → UInt16
  | ok reply => reply.warnings
  | eof reply => reply.warnings

/-- The notice that a packet of some kind holds, if it can be read. The number of
the packet plays no part in its kind, so any will do here. -/
def of? {α : Type} (kind : PacketKind) (reader : Reader α) (notice : α → Notice) (payload : Bytes) :
    Option Notice :=
  if Packet.kind ⟨0, payload⟩ = kind then (reader.run? payload).map notice else none

/-- The notice in the place of a reply, where a confirmation is looked for. -/
def ofReply? : Bytes → Option Notice :=
  of? .ok OkReply.read ok

/-- The notice in the place of a field or a row, where an end marker is looked for.
A confirmation in this place would be content. -/
def ofListing? : Bytes → Option Notice :=
  of? .eof EofReply.read eof

section

variable {α : Type} {kind : PacketKind} {reader : Reader α} {notice : α → Notice} {packet : Packet}

-- A packet's kind is decided by its payload, so its number does not matter below.

/-- A packet of the kind that can be read holds what is read. The two hypotheses are
what the session has seen when it keeps a notice. -/
theorem of?_of_read {a : α} (hkind : packet.kind = kind)
    (h : reader.run? packet.payload = some a) :
    of? kind reader notice packet.payload = some (notice a) := by
  have hkind : Packet.kind ⟨0, packet.payload⟩ = kind := hkind
  rw [of?, if_pos hkind, h]
  rfl

/-- A packet that is of another kind, or cannot be read, holds none. These are the
cases in which the session keeps nothing. -/
theorem of?_of_unread (h : packet.kind = kind → reader.run? packet.payload = none) :
    of? kind reader notice packet.payload = none := by
  unfold of?
  split
  case isTrue hkind =>
    rw [h hkind]
    rfl
  case isFalse => rfl

end

end Notice

/-- The notices among the packets that an operation receives. Where a packet stands
decides what it is read as: an EOF packet in the place of a reply is no notice, nor
is an OK packet among rows. -/
def Operation.notices : Operation → List Bytes → List Notice
  -- The greeting comes first, and then the reply to the login.
  | connect, payloads => (payloads.drop 1).filterMap Notice.ofReply?
  | execute _, payloads => payloads.filterMap Notice.ofReply?
  | ping, payloads => payloads.filterMap Notice.ofReply?
  -- The fields and rows come behind the reply.
  | query _, payloads =>
    (payloads.take 1).filterMap Notice.ofReply? ++ (payloads.drop 1).filterMap Notice.ofListing?
  | nextField, payloads => payloads.filterMap Notice.ofListing?
  | nextRow, payloads => payloads.filterMap Notice.ofListing?
  | showResults _, payloads => payloads.filterMap Notice.ofListing?
  | close, _ => []

/-- The numbers that a session has from OK and EOF packets. They begin at zero,
before there has been any. -/
structure Counters where
  affectedRows : UInt64 := 0
  lastInsertId : UInt64 := 0
  statusFlags : UInt16 := 0
  warnings : UInt16 := 0
deriving DecidableEq, Repr

/-- All that a notice says is kept. An end marker says nothing about statements, so
their two numbers stay. -/
def Counters.keep (c : Counters) : Notice → Counters
  | .ok reply => ⟨reply.affectedRows, reply.lastInsertId, reply.statusFlags, reply.warnings⟩
  | .eof reply => { c with statusFlags := reply.statusFlags, warnings := reply.warnings }

/-- What an operation keeps of a notice: all of it, but of the reply to a ping only
the status. -/
def Operation.keep : Operation → Counters → Notice → Counters
  | ping, c, notice => { c with statusFlags := notice.statusFlags }
  | _, c, notice => c.keep notice

namespace Session

variable {τ : Type}

/-- The four numbers as the session has them, gathered from its fields. -/
def counters (s : Session τ) : Counters :=
  ⟨s.affectedRows, s.lastInsertId, s.statusFlags, s.warnings⟩

/-- The payloads received since the events were last taken, first one first. They
are read off the journal, so every packet counts, whoever asked for it. -/
def inbox (s : Session τ) : List Bytes :=
  s.channel.inbox

/-- What the session has received, and where its numbers stand. The steps of an
operation add to the first and change the second, and each law says by what. -/
structure Standing (received : List Bytes) (counters : Counters) (s : Session τ) : Prop where
  inbox : s.inbox = received
  counters : s.counters = counters

/-- One more packet has come, in the place of a reply, and its notice has been kept.
A packet without a notice counts as well, and keeps nothing. -/
def Replied (keep : Counters → Notice → Counters) (received : List Bytes) (counters : Counters)
    (s : Session τ) : Prop :=
  ∃ payload, Standing (received ++ [payload])
    (([payload].filterMap Notice.ofReply?).foldl keep counters) s

/-- More packets have come, in the places of fields and rows, and their notices have
been kept. -/
def Listed (received : List Bytes) (counters : Counters) (s : Session τ) : Prop :=
  ∃ payloads, Standing (received ++ payloads)
    ((payloads.filterMap Notice.ofListing?).foldl Counters.keep counters) s

variable {received : List Bytes} {counters : Counters} {keep : Counters → Notice → Counters}
  {s s' : Session τ} {packet : Packet}

/-- Every session stands where it stands. From here an operation is followed, and
what it adds is then told from its beginning. -/
theorem standing_self (s : Session τ) : Standing s.inbox s.counters s :=
  ⟨rfl, rfl⟩

/-- To say where a session stands, the inbox is all that is needed of the channel.
So what the channel does without receiving is of no account. -/
theorem sees_standing : Sees Channel.inbox (Standing (τ := τ) received counters) := by
  intro s c hc hs
  exact ⟨hc.trans hs.inbox, hs.counters⟩

/-- So it is when one more packet has come, for that packet is in the inbox. -/
theorem sees_replied : Sees Channel.inbox (Replied (τ := τ) keep received counters) := by
  rintro s c hc ⟨payload, hs⟩
  exact ⟨payload, sees_standing s c hc hs⟩

/-- To note an event that is no packet changes nothing of this, since the inbox is
made of packets alone. -/
theorem maintains_standing_note {event : Event} (h : event.arrival? = none) :
    Maintains (Standing (τ := τ) received counters) (note event) := by
  apply sees_standing.maintains_onChannel
  intro payloads
  exact Channel.maintains_inbox_note h

/-- Neither does it when one more packet has come. Refusals and announcements are
noted then. -/
theorem maintains_replied_note {event : Event} (h : event.arrival? = none) :
    Maintains (Replied (τ := τ) keep received counters) (note event) := by
  apply sees_replied.maintains_onChannel
  intro payloads
  exact Channel.maintains_inbox_note h

/-- To begin an exchange changes nothing of it either: a number is reset, and
nothing received. -/
theorem maintains_standing_startExchange :
    Maintains (Standing (τ := τ) received counters) startExchange := by
  apply sees_standing.maintains_onChannel
  intro payloads
  exact Channel.maintains_inbox_resetSequence

/-- Reading the reply and keeping it makes good on the packet, which was in the
inbox before its notice was kept. -/
theorem Standing.replied_of_read {reply : OkReply}
    (h : Standing (received ++ [packet.payload]) counters s) (hkind : packet.kind = .ok)
    (hread : OkReply.read.run? packet.payload = some reply) (hinbox : s'.inbox = s.inbox)
    (hcounters : s'.counters = keep s.counters (.ok reply)) : Replied keep received counters s' := by
  have hnotice : Notice.ofReply? packet.payload = some (.ok reply) :=
    Notice.of?_of_read hkind hread
  refine ⟨packet.payload, hinbox.trans h.inbox, ?_⟩
  rw [hcounters, h.counters, List.filterMap_cons_some hnotice]
  rfl

/-- A packet that is no OK reply changes no number, so it is made good on as it
stands. -/
theorem Standing.replied_of_unread (h : Standing (received ++ [packet.payload]) counters s)
    (hread : packet.kind = .ok → OkReply.read.run? packet.payload = none) :
    Replied keep received counters s := by
  have hnotice : Notice.ofReply? packet.payload = none := Notice.of?_of_unread hread
  refine ⟨packet.payload, h.inbox, ?_⟩
  rw [h.counters, List.filterMap_cons_none hnotice]
  rfl

/-- An end marker that can be read is kept, and the listing is longer by its packet. -/
theorem Standing.listed_of_read {payloads : List Bytes} {reply : EofReply}
    (h : Standing (received ++ payloads ++ [packet.payload])
      ((payloads.filterMap Notice.ofListing?).foldl Counters.keep counters) s)
    (hkind : packet.kind = .eof) (hread : EofReply.read.run? packet.payload = some reply)
    (hinbox : s'.inbox = s.inbox) (hcounters : s'.counters = s.counters.keep (.eof reply)) :
    Listed received counters s' := by
  have hnotice : Notice.ofListing? packet.payload = some (.eof reply) :=
    Notice.of?_of_read hkind hread
  refine ⟨payloads ++ [packet.payload], ?_, ?_⟩
  · rw [← List.append_assoc]
    exact hinbox.trans h.inbox
  · rw [List.filterMap_append, List.foldl_append, hcounters, h.counters,
      List.filterMap_cons_some hnotice]
    rfl

/-- Any other packet changes no number, and the listing is longer by it all the
same. -/
theorem Standing.listed_of_unread {payloads : List Bytes}
    (h : Standing (received ++ payloads ++ [packet.payload])
      ((payloads.filterMap Notice.ofListing?).foldl Counters.keep counters) s)
    (hread : packet.kind = .eof → EofReply.read.run? packet.payload = none) :
    Listed received counters s := by
  have hnotice : Notice.ofListing? packet.payload = none := Notice.of?_of_unread hread
  refine ⟨payloads ++ [packet.payload], ?_, ?_⟩
  · rw [← List.append_assoc]
    exact h.inbox
  · rw [List.filterMap_append, List.foldl_append, h.counters, List.filterMap_cons_none hnotice]
    rfl

/-- A packet of another kind is no OK reply. Refusals and announcements are dealt
with in this way. -/
theorem Standing.replied_of_kind {kind : PacketKind}
    (h : Standing (received ++ [packet.payload]) counters s) (hkind : packet.kind = kind)
    (hne : kind ≠ .ok) : Replied keep received counters s := by
  apply h.replied_of_unread
  intro hok
  exact absurd (hkind.symm.trans hok) hne

/-- An OK packet is read, and what comes of it is left to whoever reads it; or it
cannot be read. -/
theorem Standing.ends_decodeOk {α : Type} {next : OkReply → SessionM τ α}
    {ok : α → Session τ → Prop} {bad : Error → Session τ → Prop}
    (h : Standing (received ++ [packet.payload]) counters s)
    (hnext : ∀ reply, OkReply.read.run? packet.payload = some reply → Ends (next reply) s ok bad)
    (hbad : ∀ e, Replied keep received counters s → bad e s) :
    Ends (decodeOk packet >>= next) s ok bad := by
  rw [ends_bind]
  refine (ends_decode _ _ packet s).mono ?_ ?_
  · intro reply s' h'
    obtain ⟨hread, rfl⟩ := h'
    exact hnext reply hread
  · intro e s' h'
    obtain ⟨hread, -, rfl⟩ := h'
    have hreplied : Replied keep received counters s' := h.replied_of_unread fun _ => hread
    exact hbad e hreplied

variable [Transport τ]

/-- Sending receives nothing, and no number is changed before there is an answer. -/
theorem maintains_standing_send (payload : Bytes) :
    Maintains (Standing (τ := τ) received counters) (send payload) := by
  apply sees_standing.maintains_onChannel
  intro payloads
  exact Channel.maintains_inbox_send payload

/-- A packet that is received is one more in the inbox, and no number has changed
yet. -/
theorem Standing.ends_receive (h : Standing received counters s) :
    Ends receive s (fun packet s' => Standing (received ++ [packet.payload]) counters s')
      (fun _ s' => Standing received counters s') := by
  rw [receive, onChannel, ends_focus]
  refine (Channel.ends_receive_inbox s.channel).mono ?_ ?_
  · intro packet c hc
    have hc : c.inbox = s.inbox ++ [packet.payload] := hc
    rw [h.inbox] at hc
    exact ⟨hc, h.counters⟩
  · intro e c hc
    exact sees_standing s c hc h

/-! ### Replies -/

/-- A statement receives one packet at the most, the reply, and keeps its notice.
Where it does not get so far, it has received nothing. -/
theorem Standing.ends_execute (h : Standing received counters s) (sql : Bytes) :
    Ends (execute sql) s (fun _ s' => Replied Counters.keep received counters s')
      (fun _ s' => Standing received counters s' ∨ Replied Counters.keep received counters s') := by
  simp only [execute, requireReady, ends_bind, ends_get, ends_ensure]
  split
  case isFalse => exact .inl h
  split
  case isFalse => exact .inl h
  refine (maintains_standing_startExchange s h).mono ?_ (fun _ _ h => .inl h)
  intro _ s₁ h₁
  refine (maintains_standing_send _ s₁ h₁).mono ?_ (fun _ _ h => .inl h)
  intro _ s₂ h₂
  refine h₂.ends_receive.mono ?_ (fun _ _ h => .inl h)
  intro packet s₃ h₃
  cases hkind : packet.kind with
  | ok =>
    refine h₃.ends_decodeOk ?_ (fun _ h => .inr h)
    intro reply hread
    simp only [recordOk, ends_bind, ends_modify, ends_pure]
    exact h₃.replied_of_read hkind hread rfl rfl
  | error =>
    have hreplied : Replied Counters.keep received counters s₃ :=
      h₃.replied_of_kind hkind (by decide)
    dsimp only
    rw [ends_bind]
    refine (maintains_decode _ _ _ packet s₃ hreplied).mono ?_ (fun _ _ h => .inr h)
    intro reply s₄ h₄
    rw [ends_bind]
    have harrival : (Event.queryFailed reply).arrival? = none := rfl
    exact (maintains_replied_note harrival s₄ h₄).mono (fun _ _ h => .inr h) (fun _ _ h => .inr h)
  | eof | data =>
    have hreplied : Replied Counters.keep received counters s₃ :=
      h₃.replied_of_kind hkind (by decide)
    dsimp only
    split
    case h_1 columnCount _ =>
      -- The number of columns is none of the four that are accounted for.
      rw [ends_bind, ends_modify, ends_bind]
      obtain ⟨payload, hs⟩ := hreplied
      exact Ends.mono (maintains_replied_note rfl _ ⟨payload, hs.inbox, hs.counters⟩)
        (fun _ _ h => h) (fun _ _ h => .inr h)
    case h_2 => exact .inr hreplied

/-- A ping does the same, but it does not keep all of its notice: of a confirmation
it keeps the status alone. -/
theorem Standing.ends_ping (h : Standing received counters s) :
    Ends ping s (fun _ s' => Replied Operation.ping.keep received counters s')
      (fun _ s' => Standing received counters s'
        ∨ Replied Operation.ping.keep received counters s') := by
  simp only [ping, requireReady, ends_bind, ends_get, ends_ensure]
  split
  case isFalse => exact .inl h
  refine (maintains_standing_startExchange s h).mono ?_ (fun _ _ h => .inl h)
  intro _ s₁ h₁
  refine (maintains_standing_send _ s₁ h₁).mono ?_ (fun _ _ h => .inl h)
  intro _ s₂ h₂
  refine h₂.ends_receive.mono ?_ (fun _ _ h => .inl h)
  intro packet s₃ h₃
  cases hkind : packet.kind with
  | ok =>
    refine h₃.ends_decodeOk ?_ (fun _ h => .inr h)
    intro reply hread
    -- Here the warnings of the reply are lost.
    exact h₃.replied_of_read hkind hread rfl rfl
  | error =>
    have hreplied : Replied Operation.ping.keep received counters s₃ :=
      h₃.replied_of_kind hkind (by decide)
    dsimp only
    rw [ends_bind]
    have hdecode := maintains_decode _ ErrReply.read "Invalid error packet" packet s₃ hreplied
    exact hdecode.mono (fun _ _ h => .inr h) (fun _ _ h => .inr h)
  | eof | data => exact .inr (h₃.replied_of_kind hkind (by decide))

/-! ### Opening and closing -/

/-- No packet is received before the transport is connected, however many attempts
this takes. So a fact that sees the inbox alone is kept by all of them. -/
theorem Sees.maintains_openTransport {I : Session τ → Prop} (hI : Sees Channel.inbox I)
    (remaining made : Nat) (last : Option IoError) :
    Maintains I (openTransport remaining made last) := by
  have hnote {event : Event} (h : event.arrival? = none) : Maintains I (note event) :=
    hI.maintains_onChannel fun _ => Channel.maintains_inbox_note h
  induction remaining generalizing made last with
  | zero => exact .bind maintains_get fun s => maintains_throw _
  | succ remaining ih =>
    apply Maintains.bind maintains_get
    intro s
    refine .bind (hnote rfl) ?_
    intro _
    apply Maintains.bind
    · exact hI.maintains_onChannel fun _ => Channel.maintains_inbox_onTransport _
    intro result
    cases result with
    | ok => exact maintains_pure _
    | error e =>
      refine .bind (hnote rfl) ?_
      intro _
      exact ih _ _

/-- The greeting is a packet like any other. It is no notice, whatever its first
byte is. -/
theorem Standing.ends_readGreeting (h : Standing received counters s) :
    Ends readGreeting s (fun _ s' => ∃ greeting, Standing (received ++ [greeting]) counters s')
      (fun _ s' => Standing received counters s'
        ∨ ∃ greeting, Standing (received ++ [greeting]) counters s') := by
  rw [readGreeting, ends_bind]
  refine (maintains_standing_startExchange s h).mono ?_ (fun _ _ h => .inl h)
  intro _ s₁ h₁
  rw [ends_bind]
  refine h₁.ends_receive.mono ?_ (fun _ _ h => .inl h)
  intro packet s₂ h₂
  split
  case h_1 greeting _ =>
    rw [ends_bind, ends_modify, ends_bind]
    refine Ends.mono (maintains_standing_note rfl _ ⟨h₂.inbox, h₂.counters⟩) ?_ ?_
    · intro _ s₃ h₃
      exact ⟨_, h₃⟩
    · intro _ s₃ h₃
      exact .inr ⟨_, h₃⟩
  case h_2 => exact .inr ⟨_, h₂⟩

/-- Sending the login receives nothing and moves the state on. A fact that sees the
inbox alone has to stand this change of the state. -/
theorem Sees.maintains_sendLogin {I : Session τ → Prop} (hI : Sees Channel.inbox I)
    (hstate : ∀ (s : Session τ) (state : SessionState), I s → I { s with state })
    (greeting : Greeting) : Maintains I (sendLogin greeting) := by
  apply Maintains.bind maintains_get
  intro s
  apply Maintains.bind (hI.maintains_onChannel fun _ => Channel.maintains_inbox_send _)
  intro _
  refine .bind (maintains_modify fun s hs => hstate s _ hs) ?_
  intro _
  exact hI.maintains_onChannel fun _ => Channel.maintains_inbox_note rfl

/-- The verdict is a reply: one packet, and its notice is kept if it is one. On
failure the packet may not have come at all. -/
theorem Standing.ends_readVerdict (h : Standing received counters s) (greeting : Greeting) :
    Ends (readVerdict greeting) s (fun _ s' => Replied Counters.keep received counters s')
      (fun _ s' => Standing received counters s' ∨ Replied Counters.keep received counters s') := by
  rw [readVerdict, ends_bind]
  refine h.ends_receive.mono ?_ (fun _ _ h => .inl h)
  intro packet s₁ h₁
  cases hkind : packet.kind with
  | ok =>
    refine h₁.ends_decodeOk ?_ (fun _ h => .inr h)
    intro reply hread
    simp only [recordOk, ends_bind, ends_modify, ends_get]
    refine Ends.mono (maintains_replied_note rfl _ ?_) (fun _ _ h => h) (fun _ _ h => .inr h)
    exact h₁.replied_of_read hkind hread rfl rfl
  | error =>
    -- An ERR packet comes in the place of the reply and carries no notice.
    have hreplied : Replied Counters.keep received counters s₁ :=
      h₁.replied_of_kind hkind (by decide)
    dsimp only
    rw [ends_bind]
    refine (maintains_decode _ _ _ packet s₁ hreplied).mono ?_ (fun _ _ h => .inr h)
    intro reply s₂ h₂
    rw [ends_bind, ends_modify, ends_bind]
    obtain ⟨payload, hs⟩ := h₂
    exact Ends.mono (maintains_replied_note rfl _ ⟨payload, hs.inbox, hs.counters⟩)
      (fun _ _ h => .inr h) (fun _ _ h => .inr h)
  | eof | data => exact .inr (h₁.replied_of_kind hkind (by decide))

/-- Closing receives nothing: the session takes its leave and does not wait for an
answer. -/
theorem maintains_standing_close :
    Maintains (Standing (τ := τ) received counters) close := by
  refine .bind (.bind maintains_get fun s => ?_) ?_
  · split
    case isTrue =>
      have hfarewell : Maintains (Standing (τ := τ) received counters)
          (startExchange >>= fun _ => send (Command.quit.payload [])) :=
        .bind maintains_standing_startExchange fun _ => maintains_standing_send _
      refine .bind hfarewell.outcome ?_
      intro result
      cases result with
      | ok => exact maintains_pure _
      | error e => exact maintains_standing_note rfl
    case isFalse => exact maintains_pure _
  · intro _
    refine .bind (maintains_modify fun s hs => ⟨hs.inbox, hs.counters⟩) ?_
    intro _
    exact maintains_standing_note rfl

/-! ### Fields and rows -/

/-- One more packet of a listing makes the listing longer, whatever it is: content,
an end marker or an error. What is made of content must not receive another one. -/
theorem maintains_listed_untilEnd {α : Type} {content : Packet → SessionM τ (Option α)}
    (hcontent : ∀ packet, Maintains (Listed received counters) (content packet)) :
    Maintains (Listed received counters) (untilEnd content) := by
  rintro s ⟨payloads, hs⟩
  rw [untilEnd, ends_bind]
  refine hs.ends_receive.mono ?_ (fun _ _ h => ⟨payloads, h⟩)
  intro packet s₁ h₁
  -- Every packet is listed, but only an EOF packet that is decoded carries a notice.
  cases hkind : packet.kind with
  | eof =>
    simp only [recordEof, ends_bind, ends_modify, ends_pure]
    refine (ends_decode _ _ packet s₁).mono ?_ ?_
    · intro reply s₂ h₂
      obtain ⟨hread, rfl⟩ := h₂
      exact h₁.listed_of_read hkind hread rfl rfl
    · intro e s₂ h₂
      obtain ⟨hread, -, rfl⟩ := h₂
      exact h₁.listed_of_unread fun _ => hread
  | error =>
    have hlisted : Listed received counters s₁ := by
      apply h₁.listed_of_unread
      intro hend
      exact absurd (hkind.symm.trans hend) (by decide)
    exact Maintains.bind (maintains_decode _ _ _ packet) (fun reply => maintains_throw _) s₁ hlisted
  | ok | data =>
    have hlisted : Listed received counters s₁ := by
      apply h₁.listed_of_unread
      intro hend
      exact absurd (hkind.symm.trans hend) (by decide)
    exact hcontent packet s₁ hlisted

/-- Reading a field is a step of a listing. The descriptor is decoded from the
packet that has been received. -/
theorem maintains_listed_nextField :
    Maintains (Listed (τ := τ) received counters) nextField := by
  rw [nextField_eq]
  refine maintains_listed_untilEnd ?_
  intro packet
  split
  · exact maintains_pure _
  · exact maintains_throw _

/-- Reading a row is one as well, and its cells are not looked at yet. -/
theorem maintains_listed_nextRow :
    Maintains (Listed (τ := τ) received counters) nextRow := by
  rw [nextRow_eq]
  refine maintains_listed_untilEnd ?_
  intro packet
  refine .bind maintains_get ?_
  intro s
  exact maintains_pure _

/-- To decode the columns of a row receives nothing more, so this is one step of the
listing too. -/
theorem maintains_listed_nextCells :
    Maintains (Listed (τ := τ) received counters) nextCells := by
  apply Maintains.bind maintains_listed_nextRow
  intro row
  cases row with
  | none => exact maintains_pure _
  | some row =>
    dsimp only
    split
    · exact maintains_pure _
    · exact maintains_throw _

/-- Neither does it to write them out. The listing is that of the session, and the
output beside it is of no account. -/
theorem maintains_listed_showRow :
    Maintains (fun x : Session τ × Sink => Listed received counters x.1) showRow := by
  refine .bind (.focus (fun _ => rfl) fun _ => maintains_listed_nextCells) ?_
  intro cells
  cases cells with
  | none => exact maintains_pure _
  | some cells => exact .bind (maintains_writeLine _ _) fun _ => maintains_pure _

/-! ### Operations -/

section

variable {τ : Type} [FiniteTransport τ] {s : Session τ}

/-- All fields are a listing, as long as the loop has had rounds. -/
theorem maintains_listed_readFields :
    Maintains (Listed (τ := τ) received counters) readFields := by
  apply Maintains.bind maintains_get
  intro s
  exact maintains_collect maintains_listed_nextField s.packetBound []

/-- All rows are one. If they follow fields then both are a single listing, since
the packets are counted from the same start. -/
theorem maintains_listed_readRows :
    Maintains (Listed (τ := τ) received counters) readRows := by
  apply Maintains.bind maintains_get
  intro s
  exact maintains_collect maintains_listed_nextCells s.packetBound []

/-- What the display reads is one listing, fields and rows together. -/
theorem maintains_listed_showResults :
    Maintains (fun x : Session τ × Sink => Listed received counters x.1) showResults := by
  refine .bind (.focus (fun _ => rfl) fun _ => maintains_listed_readFields) ?_
  intro fields
  refine .bind (maintains_writeLine _ _) ?_
  intro _
  apply Maintains.bind maintains_get
  intro x
  apply Maintains.bind (maintains_collect maintains_listed_showRow _ _)
  intro rows
  refine .bind (maintains_writeLine _ _) ?_
  intro _
  exact maintains_pure _

/-- Some packets have come in the course of an operation, and it has kept the
notices among them. -/
def Told (operation : Operation) (received : List Bytes) (counters : Counters) (s : Session τ) :
    Prop :=
  ∃ payloads, Standing (received ++ payloads)
    ((operation.notices payloads).foldl operation.keep counters) s

/-- An opening receives the greeting and the reply, or less, and keeps the notice of
the reply. Where it fails it is abandoned, which changes none of the numbers. -/
theorem Standing.ends_connect (h : Standing received counters s) :
    Ends connect s (fun _ s' => Told .connect received counters s')
      (fun _ s' => Told .connect received counters s') := by
  -- Nothing has come so far, or the greeting, or the greeting and the reply.
  have hnone {s' : Session τ} (h' : Standing received counters s') :
      Told .connect received counters s' := ⟨[], by rwa [List.append_nil]⟩
  have hgreeting {greeting : Bytes} {s' : Session τ}
      (h' : Standing (received ++ [greeting]) counters s') :
      Told .connect received counters s' := ⟨[greeting], h'⟩
  have hreply {greeting : Bytes} {s' : Session τ}
      (h' : Replied Counters.keep (received ++ [greeting]) counters s') :
      Told .connect received counters s' := by
    obtain ⟨payload, hs⟩ := h'
    refine ⟨[greeting, payload], ?_, hs.counters⟩
    rw [hs.inbox, List.append_assoc]
    rfl
  have habandon {s' : Session τ} (h' : Told .connect received counters s') :
      Told .connect received counters s'.abandon := by
    obtain ⟨payloads, hs⟩ := h'
    exact ⟨payloads, hs.inbox, hs.counters⟩
  simp only [connect, ends_bind, ends_get, ends_ensure, ends_ofExcept, ends_modify, ends_tryCatch,
    ends_throw]
  split
  case isFalse => exact hnone h
  split
  case h_2 => exact hnone h
  have hstart : Standing received counters { s with state := .connecting } := ⟨h.inbox, h.counters⟩
  refine (sees_standing.maintains_openTransport _ _ _ _ hstart).mono ?_
    (fun e s₁ h₁ => habandon (hnone h₁))
  intro _ s₁ h₁
  rw [login, ends_bind]
  refine h₁.ends_readGreeting.mono ?_ ?_
  · intro greeting s₂ h₂
    obtain ⟨payload, h₂⟩ := h₂
    have hsent : Maintains (Standing (τ := τ) (received ++ [payload]) counters)
        (sendLogin greeting) :=
      sees_standing.maintains_sendLogin (fun _ _ hs => ⟨hs.inbox, hs.counters⟩) greeting
    rw [ends_bind]
    refine (hsent s₂ h₂).mono ?_ (fun _ _ h => habandon (hgreeting h))
    intro _ s₃ h₃
    refine (h₃.ends_readVerdict greeting).mono (fun _ _ h => hreply h) ?_
    intro e s₄ h₄
    rcases h₄ with h₄ | h₄
    · exact habandon (hgreeting h₄)
    · exact habandon (hreply h₄)
  · intro e s₂ h₂
    obtain h₂ | ⟨payload, h₂⟩ := h₂
    · exact habandon (hnone h₂)
    · exact habandon (hgreeting h₂)

/-- A query receives the reply and then a listing, or less of it, and keeps the
notices of both. -/
theorem Standing.ends_query (h : Standing received counters s) (sql : String) :
    Ends (query sql) s (fun _ s' => Told (.query sql) received counters s')
      (fun _ s' => Told (.query sql) received counters s') := by
  -- What is listed behind a reply comes on top of it.
  have hlisting {payload : Bytes} {s' : Session τ}
      (h' : Listed (received ++ [payload])
        (([payload].filterMap Notice.ofReply?).foldl Counters.keep counters) s') :
      Told (.query sql) received counters s' := by
    obtain ⟨payloads, hs⟩ := h'
    refine ⟨payload :: payloads, ?_, ?_⟩
    · rw [hs.inbox, List.append_assoc]
      rfl
    · rw [hs.counters]
      exact List.foldl_append.symm
  have hreply {s' : Session τ} (h' : Replied Counters.keep received counters s') :
      ∃ payload, Listed (received ++ [payload])
        (([payload].filterMap Notice.ofReply?).foldl Counters.keep counters) s' := by
    obtain ⟨payload, hs⟩ := h'
    exact ⟨payload, [], by rwa [List.append_nil]⟩
  rw [query, ends_bind]
  refine (h.ends_execute _).mono ?_ ?_
  · intro outcome s₁ h₁
    obtain ⟨payload, h₁⟩ := hreply h₁
    cases outcome with
    | done reply => exact hlisting h₁
    | resultSet columnCount =>
      rw [ends_bind]
      refine (maintains_listed_readFields s₁ h₁).mono ?_ (fun _ _ h => hlisting h)
      intro fields s₂ h₂
      rw [ends_bind]
      refine (maintains_ensure _ _ s₂ h₂).mono ?_ (fun _ _ h => hlisting h)
      intro _ s₃ h₃
      rw [ends_bind]
      exact (maintains_listed_readRows s₃ h₃).mono (fun _ _ h => hlisting h)
        (fun _ _ h => hlisting h)
  · intro e s₁ h₁
    obtain h₁ | h₁ := h₁
    · exact ⟨[], by rwa [List.append_nil]⟩
    · obtain ⟨payload, h₁⟩ := hreply h₁
      exact hlisting h₁

/-- Whatever an operation comes to, it has received some packets, has kept the
notices among them one after the other, and has changed the numbers in no other way. -/
theorem perform_told (operation : Operation) (s : Session τ) :
    Told operation s.inbox s.counters (operation.perform s).2 := by
  have hs := standing_self s
  have hlisted : Listed s.inbox s.counters s := ⟨[], by rwa [List.append_nil]⟩
  have hreplied {sent : Operation} (hnotices : ∀ payloads,
      sent.notices payloads = payloads.filterMap Notice.ofReply?) {s' : Session τ}
      (h : Standing s.inbox s.counters s' ∨ Replied sent.keep s.inbox s.counters s') :
      Told sent s.inbox s.counters s' := by
    obtain h | ⟨payload, h⟩ := h
    · exact ⟨[], by rwa [List.append_nil, hnotices]⟩
    · exact ⟨[payload], by rwa [hnotices]⟩
  -- The commands with one reply go one way, the reads another, and opening and queries
  -- are both.
  cases operation with
  | connect =>
    exact report_of_ends (fun _ s' => Told .connect s.inbox s.counters s') hs.ends_connect
  | execute sql =>
    apply report_of_ends fun _ s' => Told (.execute sql) s.inbox s.counters s'
    refine (hs.ends_execute sql).mono ?_ ?_
    · intro _ s' h
      exact hreplied (fun _ => rfl) (.inr h)
    · intro _ s' h
      exact hreplied (fun _ => rfl) h
  | query sql =>
    exact report_of_ends (fun _ s' => Told (.query sql) s.inbox s.counters s') (hs.ends_query sql)
  | nextField => exact report_of_maintains maintains_listed_nextField _ hlisted
  | nextRow => exact report_of_maintains maintains_listed_nextRow _ hlisted
  | showResults capacity =>
    apply report_showResults_of_ends fun _ s' => Told (.showResults capacity) s.inbox s.counters s'
    exact maintains_listed_showResults _ hlisted
  | ping =>
    apply report_of_ends fun _ s' => Told .ping s.inbox s.counters s'
    refine hs.ends_ping.mono ?_ ?_
    · intro _ s' h
      exact hreplied (fun _ => rfl) (.inr h)
    · intro _ s' h
      exact hreplied (fun _ => rfl) h
  | close =>
    have hclosed := report_of_maintains maintains_standing_close (fun _ => .done) hs
    exact ⟨[], by rwa [List.append_nil]⟩

end

end Session

end SqlWire
