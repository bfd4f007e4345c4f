import SqlWire.Proofs.Greeting
import SqlWire.Proofs.Login
import SqlWire.Proofs.Session.Outbound
import SqlWire.Proofs.Session.Surfacing

/-!
# The answer to a challenge

A greeting carries a seed, and the login that follows it an answer to the seed. A
server that keeps no more of a password than the hash of its hash can tell from the
answer whether the client knows the password. `connect_answers_challenge` follows
the seed on its way: out of the two places where the greeting has it, through the
answer, into the place where the login has the answer, whatever the other fields are
and however long those of variable length.

That the greeting is answered at all follows from what passes over the transport. A
`connect` that has been given the greeting has either said the login behind it or
found the login too long (`turns_of_greeted`); and one whose transport is to deliver
the greeting is given it (`greeted_of_listens`), since nothing that is done later
takes back what has been delivered.
-/

set_option autoImplicit false

namespace SqlWire

open SqlWire.Action Turn

namespace Session

section

variable {τ : Type} {s s' : Session (Recorded τ)} {payload : Bytes} {greeting : Greeting}

/-- A greeting that has been answered is the one that was delivered. Both are the
first packet that was heard, so they are the same bytes, and these parse in one way. -/
theorem Greets.answered {other : Bytes} {otherGreeting : Greeting}
    (hgreets : Greets s.config other otherGreeting)
    (hhears : ∃ bs, Recorded.Tells (introduced s.turns s.config other otherGreeting ++ hear bs)
      s'.channel.transport)
    (hparse : Greeting.parse payload = .ok greeting) (hshort : payload.length < 0x1000000)
    (hdelivered : s.taken ++ (Packet.frame ⟨0, payload⟩ ++ []) <+: s'.taken) :
    ∃ bs, s'.turns = introduced s.turns s.config payload greeting ++ hear bs := by
  obtain ⟨_, htaken⟩ := taken_of_introduced hhears
  obtain ⟨rfl, -⟩ := greeting_of_arrived hgreets.short hshort htaken hdelivered
  have hsame := hgreets.parse
  rw [hparse, Except.ok.injEq] at hsame
  rw [hsame]
  exact hhears

/-- A handshake that fails on a greeting that can be answered fails behind the
login. The other three ways to fail say that there was no such greeting, or that its
answer was too long. -/
theorem Rebuff.answered {e : Error}
    (h : Rebuff Recorded.Tells s.turns s.config e s')
    (hparse : Greeting.parse payload = .ok greeting) (hshort : payload.length < 0x1000000)
    (hfits : (Login.ofConfig s.config greeting.seed).encode.length < maxPayload)
    (hdelivered : s.taken ++ (Packet.frame ⟨0, payload⟩ ++ []) <+: s'.taken) :
    ∃ bs, s'.turns = introduced s.turns s.config payload greeting ++ hear bs := by
  cases h with
  | unaddressed heard lacks =>
    have htaken := taken_of_tells heard
    rw [turns, heard_turns] at htaken
    -- No whole packet was heard, but the greeting is one.
    rw [htaken, List.append_nil, List.prefix_append_right_inj] at hdelivered
    exact absurd hdelivered (lacks payload hshort)
  | misunderstood parse short heard =>
    obtain ⟨rfl, -⟩ := greeting_of_arrived short hshort (taken_of_greeting heard) hdelivered
    rw [hparse] at parse
    cases parse
  | speechless parse short heard long =>
    obtain ⟨rfl, -⟩ := greeting_of_arrived short hshort (taken_of_greeting heard) hdelivered
    rw [hparse, Except.ok.injEq] at parse
    rw [← parse] at long
    exact absurd hfits (Nat.not_lt_of_le long)
  | turnedAway greets h => exact greets.answered h.hears hparse hshort hdelivered

end

section

variable {τ : Type} [FiniteTransport τ] {s : Session (Recorded τ)} {payload : Bytes}
  {greeting : Greeting}

/-- What has been delivered to a session stays delivered, since every call only adds
to the record. -/
theorem steady_delivered (bs : Bytes) :
    Steady fun s : Session (Recorded τ) => bs <+: s.channel.transport.taken := by
  refine steady_transport (J := fun t : Recorded τ => bs <+: t.taken) ⟨?_, ?_⟩ ?_
  · exact Recorded.maintains_delivered_recording bs _ _
  · exact Recorded.maintains_delivered_recording bs _ _
  · intro sent
    exact Recorded.maintains_delivered_recording bs _ _

/-- An opening that listens is given the greeting, whatever comes of the rest of the
login. -/
theorem delivered_of_listens {holds : Recorded τ → Bytes → Nat → Prop}
    (hsupply : Channel.Supply s.channel.readAttempts holds)
    (hlistens : Listens holds s (Packet.frame ⟨0, payload⟩) .connect)
    (hparse : Greeting.parse payload = .ok greeting) (hshort : payload.length < 0x1000000) :
    s.taken ++ Packet.frame ⟨0, payload⟩ <+: (Operation.connect.perform s).2.taken := by
  cases hlistens with
  | connect closed valid fits fronts =>
    apply report_of_ends fun _ s' => s.taken ++ Packet.frame ⟨0, payload⟩ <+: s'.taken
    refine ends_connect_of_fronts (fun s' => s.taken ++ Packet.frame ⟨0, payload⟩ <+: s'.taken)
      (fun _ taken => s.taken ++ Packet.frame ⟨0, payload⟩ <+: taken) closed valid fronts
      ?_
    intro s₁ hdue hconfig htaken
    rw [← List.append_nil (Packet.frame _)] at hdue
    refine (hdue.ends_readGreeting hsupply hparse hshort).bind_of_ok ?_
    intro a s₂ h₂
    obtain ⟨-, -, htaken₂, -⟩ := h₂
    have hdelivered : s.taken ++ Packet.frame ⟨0, payload⟩ <+: s₂.taken := by
      refine ⟨[], ?_⟩
      rw [List.append_nil, htaken₂, htaken]
    have hsteady := steady_delivered (τ := τ) (s.taken ++ Packet.frame ⟨0, payload⟩)
    -- The rest of the login may come to anything: what has been delivered stays so.
    have hsent := hsteady.maintains_sendLogin (fun _ _ hs => hs) a
    have hverdict := hsteady.maintains_readVerdict (fun _ _ _ _ hs => hs) a
    exact hsent.bind (fun _ => hverdict) s₂ hdelivered

/-- Behind a greeting that has been given to an opening there is the login, if it
fits one packet, and then what the server says to it. Nothing is assumed about how
the opening ends. -/
theorem turns_of_delivered (hparse : Greeting.parse payload = .ok greeting)
    (hshort : payload.length < 0x1000000)
    (hfits : (Login.ofConfig s.config greeting.seed).encode.length < maxPayload)
    (hdelivered : s.taken ++ Packet.frame ⟨0, payload⟩
      <+: (Operation.connect.perform s).2.taken) :
    ∃ bs, (Operation.connect.perform s).2.turns
      = introduced s.turns s.config payload greeting ++ hear bs := by
  rw [← List.append_nil (Packet.frame _)] at hdelivered
  revert hdelivered
  apply report_of_ends fun _ s' => s.taken ++ (Packet.frame ⟨0, payload⟩ ++ []) <+: s'.taken →
    ∃ bs, s'.turns = introduced s.turns s.config payload greeting ++ hear bs
  refine (ends_connect_turns Recorded.tally rfl).mono ?_ ?_
  · intro _ s' h hdelivered
    obtain ⟨other, otherGreeting, verdict, hgreets, haccepted⟩ := h
    exact hgreets.answered haccepted.hears hparse hshort hdelivered
  · intro e s' h hdelivered
    rcases h with rfl | h
    · -- A session that did nothing cannot have been delivered anything.
      have hsome : Packet.frame ⟨0, payload⟩ ++ [] ≠ [] :=
        List.append_ne_nil_of_left_ne_nil (frame_ne_nil _) _
      exact absurd hdelivered (not_delivered_of_idle hsome)
    · exact h.answered hparse hshort hfits hdelivered

/-- A server's challenge is answered. Whatever greeting of the layout arrives at an
opening, the client says one packet behind it, the second of the exchange: the
login, which has the user and its terminator behind 32 bytes, and then an answer of
20 bytes behind its length. A server that holds no more than `H`, the hash of the
hash of the password, gets `H` back from the answer. -/
theorem connect_answers_challenge (s : Session (Recorded τ)) (p : GreetingPacket)
    (password : String) (hpassword : s.config.password = some password) (hnonempty : password ≠ "")
    (hshort : p.encode.length < 0x1000000)
    (hfits : (Login.ofConfig s.config p.seed).encode.length < maxPayload)
    (harrives : Arrives s .connect (Packet.frame ⟨0, p.encode⟩)) :
    let H := Sha1.digest (Sha1.digest (Utf8.encode password))
    ∃ head answer tail bs,
      (Operation.connect.perform s).2.turns
          = s.turns ++ (hear (Packet.frame ⟨0, p.encode⟩)
            ++ .said (Packet.frame ⟨1, head
              ++ (Utf8.encode s.config.user ++ 0 :: 0x14 :: (answer ++ tail))⟩)
            :: hear bs)
        ∧ head.length = 32 ∧ answer.length = 20
        ∧ Sha1.digest (Scramble.mask answer (Sha1.digest (p.seed ++ H))) = H := by
  intro H
  have hdelivered : s.taken ++ Packet.frame ⟨0, p.encode⟩
      <+: (Operation.connect.perform s).2.taken := by
    cases harrives with
    | delivered h => exact h
    | due supply listens => exact delivered_of_listens supply listens p.parse_encode hshort
  obtain ⟨bs, hturns⟩ := turns_of_delivered p.parse_encode hshort hfits hdelivered
  obtain ⟨head, tail, hhead, hencode⟩ := Login.exists_encode_ofConfig_eq s.config p.seed
  obtain ⟨answer, hanswer, hlength, hlogin⟩ := hencode password hnonempty
  -- The password is the one that the session has already.
  have hconfig : { s.config with password := some password } = s.config := by rw [← hpassword]
  rw [hconfig] at hlogin
  have haccepted := eq_of_beq (Scramble.accepts_scramble hanswer)
  refine ⟨head, answer, tail, bs, ?_, hhead, hlength, haccepted⟩
  rw [← hlogin, hturns, introduced, List.append_assoc, List.append_assoc, List.singleton_append]
  rfl

/-- A greeting whose version is no text, whose seed has zero bytes and that ends
with the seed. -/
theorem connect_answers_challenge_odd_greeting :
    let p : GreetingPacket := {
      version := [0x38, 0xFF], threadId := 7, seed := List.replicate 20 0, filler := 9
      capabilities := 0xFFFFFFFF, charset := 8, statusFlags := 2, seedLength := 0
      reserved := List.replicate 10 1, trailing := [], version_terminated := by decide
      length_seed := rfl, length_reserved := rfl }
    let s : Session (Recorded MemoryTransport) :=
      ofTransport { inner := { incoming := Packet.frame ⟨0, p.encode⟩ ++ [7] } }
        { user := "app", password := some "secret", database := some "shop" }
    let H := Sha1.digest (Sha1.digest (Utf8.encode "secret"))
    s.config.password = some "secret" ∧ "secret" ≠ "" ∧ p.encode.length < 0x1000000
      ∧ (Login.ofConfig s.config p.seed).encode.length < maxPayload
      ∧ Arrives s .connect (Packet.frame ⟨0, p.encode⟩)
      ∧ ∃ head answer tail bs,
        (Operation.connect.perform s).2.turns
            = s.turns ++ (hear (Packet.frame ⟨0, p.encode⟩)
              ++ .said (Packet.frame ⟨1, head
                ++ (Utf8.encode "app" ++ 0 :: 0x14 :: (answer ++ tail))⟩)
              :: hear bs)
          ∧ head.length = 32 ∧ answer.length = 20
          ∧ Sha1.digest (Scramble.mask answer (Sha1.digest (p.seed ++ H))) = H := by
  intro p s H
  have hnonempty : "secret" ≠ "" := by decide
  have hshort : p.encode.length < 0x1000000 := by decide
  have hvalid : s.config.validate = .ok () := Config.validate_eq_ok_iff.mpr (by decide +kernel)
  have hfits (seed : Bytes) : (Login.ofConfig s.config seed).encode.length < maxPayload := by
    have huser : (Utf8.encode "app").length = 3 := by decide
    have hdatabase : (Utf8.encode "shop").length = 4 := by decide
    have hanswer : Scramble.answer "secret" seed = some (Scramble.mask
        (Sha1.digest (Utf8.encode "secret"))
        (Sha1.digest (seed ++ Scramble.stored (Utf8.encode "secret")))) := rfl
    simp [s, ofTransport, Login.encode, Login.ofConfig, Login.encodeAnswer, Login.reservedLength,
      Sha1.digestLength, maxPayload, huser, hdatabase, hanswer]
  let connected : MemoryTransport := {
    connected := true, attempts := 1, incoming := Packet.frame ⟨0, p.encode⟩ ++ [7] }
  have hsupply := (MemoryTransport.supply_loaded (Nat.zero_lt_succ 9)).recorded
  have harrives : Arrives s .connect (Packet.frame ⟨0, p.encode⟩) :=
    .due hsupply (.connect rfl hvalid hfits ⟨[7], connected, ⟨rfl, Nat.zero_le _⟩, rfl⟩)
  exact ⟨rfl, hnonempty, hshort, hfits p.seed, harrives,
    connect_answers_challenge s p "secret" rfl hnonempty hshort (hfits p.seed) harrives⟩

end

end Session

end SqlWire
