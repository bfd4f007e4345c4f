import SqlWire.Proofs.Session.Exchange
import SqlWire.Proofs.Session.Reachable

/-!
# What is said and heard when a session opens and closes

To open a session the client listens first: the server's greeting is the first
packet of the exchange, the login the second and the server's verdict the third.
`ends_connect_turns` says how far this goes when it fails (`Rebuff`), and so what
has been heard of the greeting before the login is said. `ends_close_turns` is the
farewell: one command, to a server that has let the client in.
-/

set_option autoImplicit false

namespace SqlWire

open SqlWire.Action Turn

namespace Session

section

variable {τ : Type} [Transport τ] {holds : List Turn → τ → Prop} {turns before : List Turn}
  {s : Session τ}

/-- A server that refuses the login is blamed with a failure of authentication,
wherever in the exchange it does. -/
def blameOnLogin (_ : List Bytes) (reply : ErrReply) : Error :=
  loginRefusal reply

/-- The second packet of a handshake, which answers the seed of the greeting. -/
def loginTurn (config : Config) (greeting : Greeting) : Turn :=
  .said (Packet.frame ⟨1, (Login.ofConfig config greeting.seed).encode⟩)

/-- What has been said and heard when the verdict is awaited: the greeting and the
login behind it. -/
def introduced (turns : List Turn) (config : Config) (payload : Bytes) (greeting : Greeting) :
    List Turn :=
  turns ++ hear (Packet.frame ⟨0, payload⟩) ++ [loginTurn config greeting]

/-- A greeting that can be answered: it is one, and the login to it fits one packet. -/
structure Greets (config : Config) (payload : Bytes) (greeting : Greeting) : Prop where
  parse : Greeting.parse payload = .ok greeting
  short : payload.length < 0x1000000
  fits : (Login.ofConfig config greeting.seed).encode.length < maxPayload

/-- The first packet has been heard, which is the greeting. It may be one that
cannot be understood. -/
structure Addressed (holds : List Turn → τ → Prop) (turns : List Turn) (payload : Bytes)
    (s : Session τ) : Prop where
  heard : holds (turns ++ hear (Packet.frame ⟨0, payload⟩)) s.channel.transport
  short : payload.length < 0x1000000
  sequence : s.channel.sequence = 1

/-- How a handshake fails: with no greeting, or one that is none, or with a login
that does not fit one packet, or after the login. Behind the login it is an exchange
like any other that is cut. -/
inductive Rebuff (holds : List Turn → τ → Prop) (turns : List Turn) (config : Config) :
    Error → Session τ → Prop
  | unaddressed {tail : Bytes} {e : Error} {s : Session τ}
      (heard : holds (turns ++ hear tail) s.channel.transport) (lacks : Packet.Lacks 0 tail)
      (failure : e.IsChannelFailure) : Rebuff holds turns config e s
  | misunderstood {payload : Bytes} {defect : Greeting.Defect} {s : Session τ}
      (parse : Greeting.parse payload = .error defect) (short : payload.length < 0x1000000)
      (heard : holds (turns ++ hear (Packet.frame ⟨0, payload⟩)) s.channel.transport) :
      Rebuff holds turns config defect.toError s
  | speechless {payload : Bytes} {greeting : Greeting} {e : Error} {s : Session τ}
      (parse : Greeting.parse payload = .ok greeting) (short : payload.length < 0x1000000)
      (heard : holds (turns ++ hear (Packet.frame ⟨0, payload⟩)) s.channel.transport)
      (long : maxPayload ≤ (Login.ofConfig config greeting.seed).encode.length)
      (failure : e.IsChannelFailure) : Rebuff holds turns config e s
  | turnedAway {payload : Bytes} {greeting : Greeting} {e : Error} {s : Session τ}
      (greets : Greets config payload greeting)
      (h : Cut holds (introduced turns config payload greeting) 2 blameOnLogin e s) :
      Rebuff holds turns config e s

/-- The greeting is the first packet heard, with the number zero. A packet that is
no greeting has been heard as well, and is refused for what is wrong with it. -/
theorem ends_readGreeting_turns (ht : Tally holds) (hs : holds turns s.channel.transport)
    (config : Config) :
    Ends readGreeting s
      (fun greeting s' => ∃ payload, Greeting.parse payload = .ok greeting
        ∧ Addressed holds turns payload s')
      (fun e s' => Rebuff holds turns config e s') := by
  have hstart : holds turns
      ({ s.channel with sequence := 0 } : Channel τ).transport := hs
  simp only [readGreeting, startExchange, Channel.resetSequence, receive, onChannel, ends_bind,
    ends_focus, ends_modify]
  refine (ht.ends_receive hstart).mono ?_ ?_
  · intro packet c hc
    obtain ⟨hheard, hnumber, hshort, hnext⟩ := hc
    -- The exchange was started just before, so the packet that counts carries 0.
    have hnumber : packet.sequence = 0 := hnumber
    have hframe : packet.frame = Packet.frame ⟨0, packet.payload⟩ := by rw [← hnumber]
    rw [hframe] at hheard
    split
    case h_1 greeting hparse =>
      simp only [note, Channel.note, onChannel, ends_bind, ends_focus, ends_modify, ends_pure]
      exact ⟨packet.payload, hparse, hheard, hshort, hnext⟩
    case h_2 defect hparse => exact .misunderstood hparse hshort hheard
  · intro e c hc
    obtain ⟨hfailure, tail, hheard, hlacks⟩ := hc
    exact .unaddressed hheard hlacks hfailure

/-- The login is said behind the greeting, if it fits one packet. What follows is
the exchange of the verdict, which begins with number two. -/
theorem ends_sendLogin_turns (ht : Tally holds) {payload : Bytes} {greeting : Greeting}
    (hparse : Greeting.parse payload = .ok greeting) (hs : Addressed holds turns payload s) :
    Ends (sendLogin greeting) s
      (fun _ s' => Greets s.config payload greeting
        ∧ Accepted holds (introduced turns s.config payload greeting) 2 [] s')
      (fun e s' => Rebuff holds turns s.config e s') := by
  simp only [sendLogin, note, Channel.note, onChannel, ends_bind, ends_get, ends_focus,
    ends_modify]
  refine (ends_send ht hs.heard _).mono ?_ ?_
  · intro _ s₁ h₁
    obtain ⟨hlength, haccepted⟩ := h₁
    rw [hs.sequence] at haccepted
    exact ⟨⟨hparse, hs.short, hlength⟩, haccepted.of_channel rfl rfl⟩
  · intro e s₁ h₁
    obtain ⟨hfailure, ⟨hlong, hheard⟩ | ⟨hlength, hsaid⟩⟩ := h₁
    · exact .speechless hparse hs.short hheard hlong hfailure
    · rw [hs.sequence] at hsaid
      exact .turnedAway ⟨hparse, hs.short, hlength⟩ (.unheard hsaid hfailure)

/-- The verdict is one packet, and a refusal in it is that of the login. Its number
is two, behind the greeting and the login. -/
theorem ends_readVerdict_turns (ht : Tally holds) (greeting : Greeting)
    (hs : Accepted holds before 2 [] s) :
    Ends (readVerdict greeting) s (fun _ s' => ∃ verdict, Accepted holds before 2 [verdict] s')
      (fun e s' => Cut holds before 2 blameOnLogin e s') := by
  apply Ends.bind (hs.ends_receive ht)
  intro packet s₁ h₁
  cases hkind : packet.kind with
  | ok =>
    -- Whatever else fails from here on, the reply itself was no refusal.
    have haccepted := h₁.accepted hs.unmarked (by simp [hkind])
    simp only [decodeOk, recordOk, note, Channel.note, onChannel, ends_bind, ends_get, ends_focus,
      ends_modify]
    refine (ends_decode _ _ packet s₁).mono ?_ ?_
    · intro reply s' h'
      obtain ⟨-, rfl⟩ := h'
      exact ⟨packet.payload, haccepted.of_channel rfl rfl⟩
    · intro e s' h'
      obtain ⟨-, hfailure, rfl⟩ := h'
      exact haccepted.lost hfailure
  | error =>
    simp only [note, Channel.note, onChannel, ends_bind, ends_focus, ends_modify, ends_throw]
    refine (h₁.ends_decodeErr hs.unmarked hkind).mono ?_ (fun _ _ h => h)
    intro reply s' h'
    obtain ⟨rfl, hcut⟩ := h'
    exact Cut.of_turns hcut fun _ h => h
  | eof | data =>
    have haccepted := h₁.accepted hs.unmarked (by simp [hkind])
    exact haccepted.lost ⟨rfl, rfl⟩

/-- A login hears the greeting, says the login and hears the verdict, or it fails at
one of these. -/
theorem ends_login_turns (ht : Tally holds) (hs : holds turns s.channel.transport) :
    Ends login s
      (fun _ s' => ∃ payload greeting verdict, Greets s.config payload greeting
        ∧ Accepted holds (introduced turns s.config payload greeting) 2 [verdict] s')
      (fun e s' => Rebuff holds turns s.config e s') := by
  -- The login is made of the configuration, which reading the greeting does not change.
  have hmade : Maintains (MadeWith s.config s.channel.readAttempts) (readGreeting (τ := τ)) :=
    steady_madeWith.maintains_readGreeting fun _ _ hs => ⟨hs.config, hs.readAttempts⟩
  have hconfig := hmade s ⟨rfl, rfl⟩
  rw [login, ends_bind]
  refine ((ends_readGreeting_turns ht hs s.config).and hconfig).mono ?_ (fun _ _ h => h.1)
  intro greeting s₁ h₁
  obtain ⟨⟨payload, hparse, h₁⟩, hconfig, -⟩ := h₁
  rw [← hconfig]
  apply Ends.bind (ends_sendLogin_turns ht hparse h₁)
  rintro _ s₂ ⟨hgreets, h₂⟩
  refine (ends_readVerdict_turns ht greeting h₂).mono ?_ ?_
  · intro _ s₃ h₃
    obtain ⟨verdict, h₃⟩ := h₃
    exact ⟨payload, greeting, verdict, hgreets, h₃⟩
  · intro _ _ h
    exact .turnedAway hgreets h

/-- A closed transport shows the same turns, so an opening that is given up has been
turned down as it had been before. -/
theorem Rebuff.abandon (ht : Tally holds) {config : Config} {e : Error}
    (h : Rebuff holds turns config e s) : Rebuff holds turns config e s.abandon := by
  cases h with
  | unaddressed heard lacks failure => exact .unaddressed (ht.close heard) lacks failure
  | misunderstood parse short heard => exact .misunderstood parse short (ht.close heard)
  | speechless parse short heard long failure =>
    exact .speechless parse short (ht.close heard) long failure
  | turnedAway greets h => exact .turnedAway greets (h.of_turns fun _ => ht.close)

/-- Connecting the transport is no turn, however often it is tried. It may fail, and
then it is the connection that did. -/
theorem ends_openTransport_turns (ht : Tally holds) (remaining made : Nat) (last : Option IoError)
    (hs : holds turns s.channel.transport) :
    Ends (openTransport remaining made last) s
      (fun _ s' => holds turns s'.channel.transport ∧ s'.config = s.config)
      (fun e s' => e.IsChannelFailure ∧ holds turns s'.channel.transport) := by
  apply ends_openTransport (I := fun s' : Session τ =>
    holds turns s'.channel.transport ∧ s'.config = s.config)
  · intro s' event h
    exact h
  · intro host port s' h
    obtain ⟨hturns, hconfig⟩ := h
    refine (ht.connect turns host port _ hturns).mono ?_ ?_
    · intro _ t ht'
      exact ⟨ht', hconfig⟩
    · intro e t ht'
      exact ⟨ht', hconfig⟩
  · intro config attempts last s' h
    exact ⟨⟨rfl, rfl⟩, h.1⟩
  · exact ⟨hs, rfl⟩

/-- A session that is opened has heard a greeting, said its login, and heard the
verdict, in that order. One that is not has been left alone or has come part of the
way. -/
theorem ends_connect_turns (ht : Tally holds) (hs : holds turns s.channel.transport) :
    Ends connect s
      (fun _ s' => ∃ payload greeting verdict, Greets s.config payload greeting
        ∧ Accepted holds (introduced turns s.config payload greeting) 2 [verdict] s')
      (fun e s' => s' = s ∨ Rebuff holds turns s.config e s') := by
  have hstart : holds turns ({ s with state := .connecting } : Session τ).channel.transport := hs
  simp only [connect, ends_bind, ends_get, ends_ensure, ends_ofExcept, ends_modify, ends_tryCatch,
    ends_throw]
  split
  case isFalse => exact .inl trivial
  case isTrue =>
    split
    · refine (ends_openTransport_turns ht _ 0 none hstart).mono ?_ ?_
      · intro _ s₁ h₁
        obtain ⟨hturns, hconfig⟩ := h₁
        have hlogin := ends_login_turns ht hturns
        rw [hconfig] at hlogin
        refine hlogin.mono (fun _ _ h => h) ?_
        intro e s₂ h₂
        exact .inr (h₂.abandon ht)
      · intro e s₁ h₁
        obtain ⟨hfailure, hturns⟩ := h₁
        -- Nothing has been heard yet, not even in part.
        have hheard : holds (turns ++ hear []) s₁.channel.transport := by
          rwa [hear_nil, List.append_nil]
        exact .inr (Rebuff.abandon ht (.unaddressed hheard (Packet.lacks_nil 0) hfailure))
    · exact .inl trivial

/-- Only a session that is ready says anything when it is closed, and it hears
nothing. -/
theorem ends_close_turns (ht : Tally holds) (hs : holds turns s.channel.transport) :
    Ends close s
      (fun _ s' => holds turns s'.channel.transport
        ∨ s.state = .authenticated
          ∧ holds (turns ++ [.command (Command.quit.payload [])]) s'.channel.transport)
      (fun _ _ => False) := by
  have hstart : holds turns
      ({ s with channel := { s.channel with sequence := 0 } } : Session τ).channel.transport := hs
  have hlength : ¬ maxPayload ≤ (Command.quit.payload []).length := by decide
  simp only [close, leave, note, Channel.note, onChannel, ends_bind, ends_get, ends_focus,
    ends_modify]
  split
  case isTrue hready =>
    simp only [sayGoodbye, startExchange, Channel.resetSequence, note, Channel.note, onChannel,
      ends_bind, ends_focus, ends_modify, ends_outcome]
    refine (ends_send ht hstart _).mono ?_ ?_
    · intro _ s₁ h₁
      obtain ⟨-, haccepted⟩ := h₁
      have hsaid := haccepted.turns
      rw [Packet.stream, Packet.number, List.flatMap_nil, hear_nil, List.append_nil] at hsaid
      exact .inr ⟨hready, ht.close hsaid⟩
    · intro e s₁ h₁
      -- A farewell that is not delivered has been said all the same.
      obtain ⟨-, ⟨hlong, -⟩ | ⟨-, hsaid⟩⟩ := h₁
      · exact absurd hlong hlength
      · exact .inr ⟨hready, ht.close hsaid⟩
  case isFalse => exact .inl (ht.close hs)

end

end Session

end SqlWire
