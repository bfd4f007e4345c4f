import SqlWire.Proofs.Session.Exchange
import SqlWire.Proofs.Session.ServerError
import SqlWire.Proofs.Transport.Supply

/-!
# An error that is due is come upon

Where a transport has an error to deliver next, with the number that is due, each
operation that reads comes upon it: reads at once, commands behind what they send,
and an opening either in place of the greeting or behind it. `Meets` says that the
operation fails with that error and takes no byte from behind it.
-/

set_option autoImplicit false

namespace SqlWire

open SqlWire.Action

namespace Session

variable {τ : Type} {s : Session (Recorded τ)} {r : ServerError}

/-- The bytes that the transport of a session has delivered, over all that has been
done with it. -/
def taken (s : Session (Recorded τ)) : Bytes :=
  s.channel.transport.taken

/-- A transport with these bytes to deliver next. What it delivers behind them is
left open. -/
def Fronts (holds : Recorded τ → Bytes → Nat → Prop) (bs : Bytes) (t : Recorded τ) : Prop :=
  ∃ rest, holds t (bs ++ rest) 0

/-- A session with these bytes to read next. The budget is named, since the
transport is one that delivers within it. -/
structure Due (attempts : Nat) (holds : Recorded τ → Bytes → Nat → Prop) (bs : Bytes)
    (s : Session (Recorded τ)) : Prop where
  fronts : Fronts holds bs s.channel.transport
  readAttempts : s.channel.readAttempts = attempts

/-- An action fails with this error and has taken these bytes. There is no other way
for it to end. -/
def Meets {α : Type} (action : SessionM (Recorded τ) α) (s : Session (Recorded τ)) (e : Error)
    (bs : Bytes) : Prop :=
  Ends action s (fun _ _ => False) (fun e' s' => e' = e ∧ s'.taken = bs)

/-- An error that has been sent is decoded as it was meant, under whichever number
it comes. -/
theorem decodeErr_payload (hr : r.WellFormed) (sequence : UInt8) :
    (decodeErr ⟨sequence, r.payload⟩ : SessionM τ ErrReply) = pure r.reply := by
  rw [decodeErr, decode, hr.run?_payload]

/-- An error that has been sent is taken for one, since its marker is its first
byte. -/
theorem kind_payload (r : ServerError) (sequence : UInt8) :
    Packet.kind ⟨sequence, r.payload⟩ = .error :=
  (Packet.kind_eq_error_iff _).mpr r.head?_payload

variable {attempts : Nat} {holds : Recorded τ → Bytes → Nat → Prop} {payload more : Bytes}

/-- A new exchange begins with what is due. It takes nothing and sets the number to
zero. -/
theorem Due.ends_startExchange (hs : s.Due attempts holds more) :
    Ends startExchange s
      (fun _ s' => s'.Due attempts holds more ∧ s'.taken = s.taken ∧ s'.channel.sequence = 0
        ∧ s'.config = s.config)
      (fun _ _ => False) :=
  ⟨⟨hs.fronts, hs.readAttempts⟩, rfl, rfl, rfl⟩

variable [Transport τ]

/-- A packet that is due is received, and counts as taken. What is due behind it is
due next, under the next number. -/
theorem Due.ends_receive (h : Channel.Supply attempts holds) (hlength : payload.length < 0x1000000)
    (hs : s.Due attempts holds (Packet.frame ⟨s.channel.sequence, payload⟩ ++ more)) :
    Ends receive s
      (fun p s' => p = ⟨s.channel.sequence, payload⟩ ∧ s'.Due attempts holds more
        ∧ s'.taken = s.taken ++ Packet.frame ⟨s.channel.sequence, payload⟩
        ∧ s'.channel.sequence = s.channel.sequence + 1 ∧ s'.config = s.config)
      (fun _ _ => False) := by
  obtain ⟨⟨rest, hfront⟩, hattempts⟩ := hs
  rw [List.append_assoc] at hfront
  -- What is received is known from the delivery, and what it took from the record.
  have hframe := h.ends_receive_frame hattempts hfront hlength
  rw [receive, onChannel, ends_focus]
  refine (hframe.and (Channel.ends_receive_taken s.channel)).mono ?_ (fun _ _ hc => hc.1)
  intro p c hc
  obtain ⟨⟨rfl, hunread, hsequence, hbudget⟩, htaken, -⟩ := hc
  exact ⟨rfl, ⟨⟨rest, hunread⟩, hbudget⟩, htaken, hsequence, rfl⟩

/-- What is due stays due while a payload is sent, and nothing is taken. Sending and
delivering do not get in each other's way. -/
theorem Due.ends_send (h : Channel.Supply attempts holds) (hlength : payload.length < maxPayload)
    (hs : s.Due attempts holds more) :
    Ends (send payload) s
      (fun _ s' => s'.Due attempts holds more ∧ s'.taken = s.taken
        ∧ s'.channel.sequence = s.channel.sequence + 1)
      (fun _ _ => False) := by
  obtain ⟨⟨rest, hfront⟩, hattempts⟩ := hs
  have hsend := h.ends_send hattempts hfront hlength
  have htaken := Channel.maintains_send
    (fun bs => Recorded.maintains_taken_write s.channel.transport.taken bs) payload s.channel rfl
  rw [send, onChannel, ends_focus]
  refine (hsend.and htaken).mono ?_ (fun _ _ hc => hc.1)
  intro _ c hc
  obtain ⟨⟨hunread, hsequence, hbudget⟩, htaken⟩ := hc
  exact ⟨⟨⟨rest, hunread⟩, hbudget⟩, htaken, hsequence⟩

/-- The packet that a step begins with decides how the step ends. Whatever follows
the packet fails without reading, so what has been taken is the packet. -/
theorem Due.meets_receive_bind {α : Type} (h : Channel.Supply attempts holds) (hr : r.WellFormed)
    {sequence : UInt8} (hs : s.Due attempts holds (Packet.frame ⟨sequence, r.payload⟩))
    (hsequence : s.channel.sequence = sequence) {next : Packet → SessionM (Recorded τ) α}
    {e : Error} (hnext : ∀ s', Meets (next ⟨sequence, r.payload⟩) s' e s'.taken) :
    Meets (receive >>= next) s e (s.taken ++ Packet.frame ⟨sequence, r.payload⟩) := by
  subst hsequence
  rw [← List.append_nil (Packet.frame _)] at hs
  refine (hs.ends_receive h hr.short).bind_of_ok ?_
  intro p s' h'
  obtain ⟨rfl, -, htaken, -⟩ := h'
  rw [← htaken]
  exact hnext s'

/-! ### Reads -/

/-- A step that reads up to an end marker meets an error in its place. What the step
makes of content does not matter here. -/
theorem Due.meets_untilEnd (h : Channel.Supply attempts holds) (hr : r.WellFormed)
    (hs : s.Due attempts holds (Packet.frame ⟨s.channel.sequence, r.payload⟩)) {α : Type}
    (content : Packet → SessionM (Recorded τ) (Option α)) :
    Meets (untilEnd content) s (refusal r.reply none)
      (s.taken ++ Packet.frame ⟨s.channel.sequence, r.payload⟩) := by
  refine hs.meets_receive_bind h hr rfl ?_
  intro s'
  rw [kind_payload, decodeErr_payload hr]
  exact ⟨rfl, rfl⟩

/-- Reading a field meets the error that is due, and fails with the refusal that it
is. -/
theorem Due.meets_nextField (h : Channel.Supply attempts holds) (hr : r.WellFormed)
    (hs : s.Due attempts holds (Packet.frame ⟨s.channel.sequence, r.payload⟩)) :
    Meets nextField s (refusal r.reply none)
      (s.taken ++ Packet.frame ⟨s.channel.sequence, r.payload⟩) := by
  rw [nextField_eq]
  exact hs.meets_untilEnd h hr _

/-- Reading a row meets the error that is due in the same way. -/
theorem Due.meets_nextRow (h : Channel.Supply attempts holds) (hr : r.WellFormed)
    (hs : s.Due attempts holds (Packet.frame ⟨s.channel.sequence, r.payload⟩)) :
    Meets nextRow s (refusal r.reply none)
      (s.taken ++ Packet.frame ⟨s.channel.sequence, r.payload⟩) := by
  rw [nextRow_eq]
  exact hs.meets_untilEnd h hr _

/-! ### Commands -/

/-- What follows a command begins with its answer, which is the packet of number
one. -/
theorem Due.meets_ask_bind {α : Type} (h : Channel.Supply attempts holds) (hr : r.WellFormed)
    (hs : s.Due attempts holds (Packet.frame ⟨1, r.payload⟩))
    (hlength : payload.length < maxPayload)
    {next : Packet → SessionM (Recorded τ) α} {e : Error}
    (hnext : ∀ s', Meets (next ⟨1, r.payload⟩) s' e s'.taken) :
    Meets (startExchange >>= fun _ => send payload >>= fun _ => receive >>= next) s e
      (s.taken ++ Packet.frame ⟨1, r.payload⟩) := by
  refine hs.ends_startExchange.bind_of_ok ?_
  intro _ s₀ h₀
  obtain ⟨hdue₀, htaken₀, hsequence₀, -⟩ := h₀
  refine (hdue₀.ends_send h hlength).bind_of_ok ?_
  intro _ s₁ h₁
  obtain ⟨hdue, htaken, hsequence⟩ := h₁
  rw [hsequence₀] at hsequence
  rw [← htaken₀, ← htaken]
  exact hdue.meets_receive_bind h hr hsequence hnext

/-- A statement that the session admits meets the error behind the query, and has
the query in its own. -/
theorem Due.meets_execute (h : Channel.Supply attempts holds) (hr : r.WellFormed)
    (hs : s.Due attempts holds (Packet.frame ⟨1, r.payload⟩)) {sql : Bytes}
    (hadmits : s.Admits sql) :
    Meets (execute sql) s (refusal r.reply (some sql))
      (s.taken ++ Packet.frame ⟨1, r.payload⟩) := by
  have hlength : (Command.query.payload sql).length < maxPayload :=
    (Config.fits_of_exceedsLimit_eq_false hadmits.limit).2
  rw [Meets, execute, ends_bind, requireReady, ends_bind, ends_get, ends_ensure,
    if_pos hadmits.ready, ends_bind, ends_get, ends_bind, ends_ensure, if_pos hadmits.limit]
  refine hs.meets_ask_bind h hr hlength ?_
  intro s'
  rw [kind_payload, decodeErr_payload hr]
  exact ⟨rfl, rfl⟩

/-- A ping of an authenticated session meets the error behind what it has sent. The
refusal is about no query. -/
theorem Due.meets_ping (h : Channel.Supply attempts holds) (hr : r.WellFormed)
    (hs : s.Due attempts holds (Packet.frame ⟨1, r.payload⟩)) (hstate : s.state = .authenticated) :
    Meets ping s (refusal r.reply none) (s.taken ++ Packet.frame ⟨1, r.payload⟩) := by
  have hlength : (Command.ping.payload []).length < maxPayload := by decide
  rw [Meets, ping, ends_bind, requireReady, ends_bind, ends_get, ends_ensure, if_pos hstate]
  refine hs.meets_ask_bind h hr hlength ?_
  intro s'
  rw [kind_payload, decodeErr_payload hr]
  exact ⟨rfl, rfl⟩

/-! ### Opening -/

/-- An error in place of the greeting is met as the refusal of the connection: the
defect of a greeting that is an error. -/
theorem Due.meets_readGreeting (h : Channel.Supply attempts holds) (hr : r.WellFormed)
    (hs : s.Due attempts holds (Packet.frame ⟨0, r.payload⟩)) :
    Meets readGreeting s (Greeting.Defect.refused r.reply).toError
      (s.taken ++ Packet.frame ⟨0, r.payload⟩) := by
  refine hs.ends_startExchange.bind_of_ok ?_
  intro _ s₀ h₀
  obtain ⟨hdue, htaken, hsequence, -⟩ := h₀
  rw [← htaken]
  refine hdue.meets_receive_bind h hr hsequence ?_
  intro s'
  rw [hr.parse_payload]
  exact ⟨rfl, rfl⟩

/-- A greeting that can be read is read, and what is due behind it stays due. The
configuration is the same, so the login to come is known. -/
theorem Due.ends_readGreeting (h : Channel.Supply attempts holds) {greeting : Greeting}
    (hparse : Greeting.parse payload = .ok greeting) (hlength : payload.length < 0x1000000)
    (hs : s.Due attempts holds (Packet.frame ⟨0, payload⟩ ++ more)) :
    Ends readGreeting s
      (fun a s' => a = greeting ∧ s'.Due attempts holds more
        ∧ s'.taken = s.taken ++ Packet.frame ⟨0, payload⟩ ∧ s'.channel.sequence = 1
        ∧ s'.config = s.config)
      (fun _ _ => False) := by
  refine hs.ends_startExchange.bind_of_ok ?_
  intro _ s₀ h₀
  obtain ⟨hdue₀, htaken₀, hsequence₀, hconfig₀⟩ := h₀
  rw [← hsequence₀] at hdue₀ ⊢
  refine (hdue₀.ends_receive h hlength).bind_of_ok ?_
  intro p s₁ h₁
  obtain ⟨rfl, hdue, htaken, hsequence, hconfig⟩ := h₁
  rw [hparse]
  rw [htaken₀] at htaken
  rw [hsequence₀] at hsequence
  exact ⟨rfl, ⟨hdue.fronts, hdue.readAttempts⟩, htaken, hsequence, hconfig.trans hconfig₀⟩

/-- An error in answer to the login is met as the refusal of the login. The number
two is that of the server's second packet. -/
theorem Due.meets_readVerdict (h : Channel.Supply attempts holds) (hr : r.WellFormed)
    (hs : s.Due attempts holds (Packet.frame ⟨2, r.payload⟩)) (hsequence : s.channel.sequence = 2)
    (greeting : Greeting) :
    Meets (readVerdict greeting) s (loginRefusal r.reply)
      (s.taken ++ Packet.frame ⟨2, r.payload⟩) := by
  refine hs.meets_receive_bind h hr hsequence ?_
  intro s'
  rw [kind_payload, decodeErr_payload hr]
  exact ⟨rfl, rfl⟩

/-- The verdict is read where the login can be sent. The greeting is the packet of
number zero, the login that of number one, and so the verdict has number two. -/
theorem Due.meets_login (h : Channel.Supply attempts holds) (hr : r.WellFormed)
    {greeting : Greeting} (hparse : Greeting.parse payload = .ok greeting)
    (hlength : payload.length < 0x1000000)
    (hfits : (Login.ofConfig s.config greeting.seed).encode.length < maxPayload)
    (hs : s.Due attempts holds (Packet.frame ⟨0, payload⟩ ++ Packet.frame ⟨2, r.payload⟩)) :
    Meets login s (loginRefusal r.reply)
      (s.taken ++ (Packet.frame ⟨0, payload⟩ ++ Packet.frame ⟨2, r.payload⟩)) := by
  refine (hs.ends_readGreeting h hparse hlength).bind_of_ok ?_
  intro a s₁ h₁
  obtain ⟨rfl, hdue, htaken, hsequence, hconfig⟩ := h₁
  rw [← hconfig] at hfits
  rw [sendLogin, ends_bind, ends_bind, ends_get]
  refine (hdue.ends_send h hfits).bind_of_ok ?_
  intro _ s₂ h₂
  obtain ⟨hdue, htaken₂, hsequence₂⟩ := h₂
  -- The login has been sent: what is left to do before the verdict touches no transport.
  have hverdict : ({ s₂ with
      state := .loginSent
      channel := s₂.channel.noted (.loginSent s₁.config.user Scramble.pluginName) } :
      Session _).Due attempts holds (Packet.frame ⟨2, r.payload⟩) :=
    ⟨hdue.fronts, hdue.readAttempts⟩
  have hnumber : s₂.channel.sequence = 2 := by
    rw [hsequence₂, hsequence]
    rfl
  rw [ends_bind, ends_modify, note, Channel.note, onChannel, ends_focus, ends_modify,
    ← List.append_assoc, ← htaken, ← htaken₂]
  exact hverdict.meets_readVerdict h hr hnumber a

/-- A login meets an error in place of the greeting before it sends anything. -/
theorem Due.meets_greeting (h : Channel.Supply attempts holds) (hr : r.WellFormed)
    (hs : s.Due attempts holds (Packet.frame ⟨0, r.payload⟩)) :
    Meets login s (Greeting.Defect.refused r.reply).toError
      (s.taken ++ Packet.frame ⟨0, r.payload⟩) := by
  rw [Meets, login, ends_bind]
  exact Ends.mono (hs.meets_readGreeting h hr) (fun _ _ hfalse => hfalse.elim) (fun _ _ h => h)

/-- An opening begins with a login, once the transport lets the client in, and a
failure of the login is the failure of the opening. -/
theorem ends_connect_of_fronts {bs : Bytes} (ok : Session (Recorded τ) → Prop)
    (bad : Error → Bytes → Prop)
    (hclosed : Transport.isConnected s.channel.transport = false)
    (hvalid : s.config.validate = .ok ())
    (hconnect : Ends (Transport.connect s.config.host s.config.port) s.channel.transport
      (fun _ t => Fronts holds bs t) (fun _ _ => False))
    (hlogin : ∀ s₁ : Session (Recorded τ), s₁.Due s.channel.readAttempts holds bs →
      s₁.config = s.config → s₁.taken = s.taken →
        Ends login s₁ (fun _ s' => ok s') (fun e s' => bad e s'.taken)) :
    Ends connect s (fun _ s' => ok s') (fun e s' => bad e s'.taken) := by
  obtain ⟨attempts, hattempts⟩ := Nat.exists_eq_succ_of_ne_zero
    (Config.connectAttempts_ne_zero_of_validate hvalid)
  -- The first attempt to connect succeeds, so no other one is made.
  simp only [connect, ends_bind, ends_get, ends_ensure, ends_ofExcept, ends_modify,
    ends_tryCatch, ends_throw, if_pos hclosed, hvalid, hattempts, openTransport, note, Channel.note,
    onTransport, Channel.onTransport, onChannel, ends_focus, ends_outcome]
  have htaken := Recorded.maintains_taken_connect s.taken s.config.host s.config.port
    s.channel.transport rfl
  refine (hconnect.and htaken).mono ?_ (fun _ _ ht => ht.1.elim)
  intro _ t ht
  obtain ⟨hfronts, htaken⟩ := ht
  let opened : Session (Recorded τ) := { s with
    state := .connecting
    channel := { s.channel.noted (.connecting s.config.host s.config.port 1) with
      transport := t } }
  have hdue : opened.Due s.channel.readAttempts holds bs := ⟨hfronts, rfl⟩
  have hend := hlogin opened hdue rfl htaken
  refine hend.mono (fun _ _ h => h) ?_
  intro e' s' h'
  -- The error is caught and thrown again, and the transport closed in between.
  have hclose : s'.abandon.taken = s'.taken := Recorded.taken_close _
  rwa [hclose]

/-- What a login meets, an opening meets: it connects first, and what it does on
failure afterwards takes no byte. -/
theorem meets_connect {bs : Bytes} {e : Error}
    (hclosed : Transport.isConnected s.channel.transport = false)
    (hvalid : s.config.validate = .ok ())
    (hconnect : Ends (Transport.connect s.config.host s.config.port) s.channel.transport
      (fun _ t => Fronts holds bs t) (fun _ _ => False))
    (hlogin : ∀ s₁ : Session (Recorded τ), s₁.Due s.channel.readAttempts holds bs →
      s₁.config = s.config → Meets login s₁ e (s₁.taken ++ bs)) :
    Meets connect s e (s.taken ++ bs) := by
  refine ends_connect_of_fronts (fun _ => False) (fun e' taken => e' = e ∧ taken = s.taken ++ bs)
    hclosed hvalid hconnect ?_
  intro s₁ hdue hconfig htaken
  have hmeets := hlogin s₁ hdue hconfig
  rwa [htaken] at hmeets

end Session

end SqlWire
