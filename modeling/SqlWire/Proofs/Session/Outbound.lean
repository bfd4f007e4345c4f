import SqlWire.Proofs.Session.Handshake

/-!
# What a client may say

Whatever happens to a session, and in whatever order it is asked to do what it can
do, it hands only a few kinds of buffers to its transport. `Utters` lists what an
operation passes over the transport: nothing but bytes heard, or one packet, which
is the login of a `connect` that has just read a greeting, or a command of an
authenticated session, said before any of its answer is heard. `run_utters` is the
law of whole runs: each operation utters no more than that, whatever was done before
it, and after a `close` nothing is said until a `connect` has been greeted.

The state that counts for this is whether the session is authenticated. No operation
but `connect` makes it so, and `connect` only behind a greeting; `close` ends it.
-/

set_option autoImplicit false

namespace SqlWire

open SqlWire.Action Turn

/-- A buffer is a packet: the length in its header is that of what follows the
header, and it announces no continuation. -/
structure Framed (buffer : Bytes) : Prop where
  header : Header.size ≤ buffer.length
  length : (Header.ofBytes buffer).length = buffer.length - Header.size
  single : (Header.ofBytes buffer).length < maxPayload

/-- A payload that fits one packet is framed as one. No server is sent a packet that
has to be continued. -/
theorem framed_frame {sequence : UInt8} {payload : Bytes} (h : payload.length < maxPayload) :
    Framed (Packet.frame ⟨sequence, payload⟩) := by
  have hshort : payload.length < 0x1000000 := Nat.lt_trans h (by decide)
  have hheader := Header.ofBytes_frame_append (p := ⟨sequence, payload⟩) hshort []
  rw [List.append_nil] at hheader
  have hlength := Packet.length_frame ⟨sequence, payload⟩
  constructor
  case header =>
    rw [hlength]
    exact Nat.le_add_right _ _
  case length =>
    rw [hheader, hlength]
    exact (Nat.add_sub_cancel_left _ _).symm
  case single => rwa [hheader]

namespace Session

section

variable {τ : Type} {s s' : Session τ}

/-- What an operation may pass over the transport, asked of the session `s`. It is
what was said and heard in the order in which it was, so that a login cannot come
before the greeting that it answers. -/
inductive Utters (s : Session τ) : Operation → List Turn → Prop
  /-- Whatever is asked, nothing may come of it. -/
  | silent (operation : Operation) : Utters s operation []
  /-- A handshake that goes no further than the greeting. -/
  | ungreeted (bs : Bytes) : Utters s .connect (hear bs)
  /-- The login, behind a greeting that has been read and understood. -/
  | login {payload : Bytes} {greeting : Greeting} (greets : Greets s.config payload greeting)
      (bs : Bytes) :
      Utters s .connect (hear (Packet.frame ⟨0, payload⟩)
        ++ .said (Packet.frame ⟨1, (Login.ofConfig s.config greeting.seed).encode⟩) :: hear bs)
  | execute {sql : Bytes} (ready : s.state = .authenticated)
      (limit : sql.length ≤ s.config.maxQuerySize.toNat) (fits : sql.length + 1 < maxPayload)
      (bs : Bytes) :
      Utters s (.execute sql) (.said (Packet.frame ⟨0, 0x03 :: sql⟩) :: hear bs)
  | query {sql : String} (ready : s.state = .authenticated)
      (limit : (Utf8.encode sql).length ≤ s.config.maxQuerySize.toNat)
      (fits : (Utf8.encode sql).length + 1 < maxPayload) (bs : Bytes) :
      Utters s (.query sql) (.said (Packet.frame ⟨0, 0x03 :: Utf8.encode sql⟩) :: hear bs)
  /-- The reads say nothing. -/
  | nextField (bs : Bytes) : Utters s .nextField (hear bs)
  | nextRow (bs : Bytes) : Utters s .nextRow (hear bs)
  | showResults (capacity : Option Nat) (bs : Bytes) : Utters s (.showResults capacity) (hear bs)
  | ping (ready : s.state = .authenticated) (bs : Bytes) :
      Utters s .ping (.said (Packet.frame ⟨0, [0x0E]⟩) :: hear bs)
  | close (ready : s.state = .authenticated) :
      Utters s .close [.said (Packet.frame ⟨0, [0x01]⟩)]

variable {operation : Operation} {exchange : List Turn}

/-- Next to what is heard there is either nothing or one packet, whatever the
operation is and however far it gets. -/
theorem Utters.said (h : Utters s operation exchange) :
    exchange.filterMap said? = []
      ∨ ∃ sequence payload, exchange.filterMap said? = [Packet.frame ⟨sequence, payload⟩]
        ∧ payload.length < maxPayload := by
  cases h with
  | silent | ungreeted | nextField | nextRow | showResults => exact .inl (by simp)
  | login greets => exact .inr ⟨1, _, by simp [said?], greets.fits⟩
  | @execute sql _ _ fits => exact .inr ⟨0, 0x03 :: sql, by simp [said?], fits⟩
  | @query sql _ _ fits => exact .inr ⟨0, 0x03 :: Utf8.encode sql, by simp [said?], fits⟩
  | ping => exact .inr ⟨0, [0x0E], by simp [said?], by decide⟩
  | close => exact .inr ⟨0, [0x01], by simp [said?], by decide⟩

/-- An operation says one thing at the most, and that is framed. It is what the run
adds up over its operations. -/
theorem Utters.framed (h : Utters s operation exchange) :
    (exchange.filterMap said?).length ≤ 1 ∧ ∀ buffer ∈ exchange.filterMap said?, Framed buffer := by
  rcases h.said with hnone | ⟨sequence, payload, hone, hlength⟩
  · simp [hnone]
  · simpa [hone] using framed_frame hlength

/-- Whoever is not authenticated says nothing, unless to log in. -/
theorem Utters.silent_or_connect (h : Utters s operation exchange)
    (hstate : s.state ≠ .authenticated) :
    exchange.filterMap said? = [] ∨ operation = .connect := by
  cases h with
  | silent | ungreeted | nextField | nextRow | showResults => exact .inl (by simp)
  | login => exact .inr rfl
  | execute ready | query ready | ping ready | close ready => exact absurd ready hstate

end

/-! ### One operation -/

section

variable {τ : Type} {s s' : Session (Recorded τ)}

/-- The turns of a session over a recorded transport: what has been said and heard,
in the order in which it was. -/
def turns (s : Session (Recorded τ)) : List Turn :=
  s.channel.transport.turns

/-- Between the two sessions, the operation has uttered what it may. The later turns
are the earlier ones and an exchange behind them. -/
def Uttered (s : Session (Recorded τ)) (operation : Operation) (s' : Session (Recorded τ)) : Prop :=
  ∃ exchange, s'.turns = s.turns ++ exchange ∧ Utters s operation exchange

/-- An operation that hears something utters no more than that, so every read is
covered, however it ended. -/
theorem uttered_of_hears {operation : Operation} (h : ∃ bs, s'.turns = s.turns ++ hear bs)
    (hutters : ∀ bs, Utters s operation (hear bs)) : Uttered s operation s' := by
  obtain ⟨bs, hbs⟩ := h
  exact ⟨_, hbs, hutters bs⟩

/-- A command is uttered before what is heard in answer to it. The answer may be
nothing, or break off anywhere. -/
theorem uttered_of_answer {operation : Operation} {turn : Turn}
    (h : ∃ bs, s'.turns = s.turns ++ [turn] ++ hear bs)
    (hutters : ∀ bs, Utters s operation (turn :: hear bs)) : Uttered s operation s' := by
  obtain ⟨bs, hbs⟩ := h
  rw [List.append_assoc, List.singleton_append] at hbs
  exact ⟨_, hbs, hutters bs⟩

/-- The login is uttered behind the greeting that it answers. So nobody logs in
without having been greeted. -/
theorem uttered_of_introduced {payload : Bytes} {greeting : Greeting}
    (hgreets : Greets s.config payload greeting)
    (h : ∃ bs, s'.turns = introduced s.turns s.config payload greeting ++ hear bs) :
    Uttered s .connect s' := by
  obtain ⟨bs, hbs⟩ := h
  rw [introduced, List.append_assoc, List.append_assoc, List.singleton_append] at hbs
  exact ⟨_, hbs, .login hgreets bs⟩

/-- Where nothing happens, nothing is uttered, which every operation may do. -/
theorem uttered_silent (s : Session (Recorded τ)) (operation : Operation) : Uttered s operation s :=
  ⟨[], (List.append_nil _).symm, .silent operation⟩

/-- Where a command is declined, nothing is uttered: the session that declines is
the one from before. -/
theorem Declined.uttered {e : Error} (h : Declined s e s') (operation : Operation) :
    Uttered s operation s' := by
  cases h with
  | notReady e failure => exact uttered_silent s operation
  | tooLong sql limit ready => exact uttered_silent s operation

/-- However far a handshake gets, the login is said behind a greeting. The cases are
the ways in which it may be turned down. -/
theorem Rebuff.uttered {e : Error}
    (h : Rebuff Recorded.Tells s.turns s.config e s') :
    Uttered s .connect s' := by
  cases h with
  | unaddressed heard => exact uttered_of_hears ⟨_, heard⟩ .ungreeted
  | misunderstood _ _ heard => exact uttered_of_hears ⟨_, heard⟩ .ungreeted
  | speechless _ _ heard => exact uttered_of_hears ⟨_, heard⟩ .ungreeted
  | turnedAway greets h => exact uttered_of_introduced greets h.hears

/-- A command that is not declined is uttered, and then its answer is heard, as far
as it goes. -/
theorem uttered_of_command {α : Type} {action : SessionM (Recorded τ) α} (answer : α → Answer)
    {operation : Operation} {sql : Option Bytes} {P : Prop} {command : Bytes}
    (h : Ends action s
      (fun _ s' => P ∧ ∃ payloads,
        Accepted Recorded.Tells (s.turns ++ [.command command]) 1 payloads s')
      (fun e s' => Declined s e s'
        ∨ P ∧ Cut Recorded.Tells (s.turns ++ [.command command]) 1 (blameOn sql) e s'))
    (hutters : P → ∀ bs, Utters s operation (.command command :: hear bs)) :
    Uttered s operation (Operation.report answer action s).2 := by
  apply report_of_ends fun _ s' => Uttered s operation s'
  refine h.mono ?_ ?_
  · intro _ s' h
    obtain ⟨hp, payloads, haccepted⟩ := h
    exact uttered_of_answer haccepted.hears (hutters hp)
  · intro e s' h
    rcases h with h | ⟨hp, h⟩
    · exact h.uttered operation
    · exact uttered_of_answer h.hears (hutters hp)

variable [FiniteTransport τ]

/-- Each operation utters what it may. There is one case for each, and in each the
ends of the operation are known from what it says and hears. -/
theorem perform_uttered (s : Session (Recorded τ)) (operation : Operation) :
    Uttered s operation (operation.perform s).2 := by
  have ht := Recorded.tally (τ := τ)
  have hs : s.channel.transport.turns = s.turns := rfl
  have hreading : Reading Recorded.Tells s.turns s.channel.sequence (blameOn none) [] s := .here hs
  -- A login may stop early, a command sends one frame or none, the rest only listen.
  cases operation with
  | connect =>
    apply report_of_ends fun _ s' => Uttered s .connect s'
    refine (ends_connect_turns ht hs).mono ?_ ?_
    · intro _ s' h
      obtain ⟨payload, greeting, verdict, hgreets, haccepted⟩ := h
      exact uttered_of_introduced hgreets haccepted.hears
    · intro e s' h
      rcases h with rfl | h
      · exact uttered_silent _ _
      · exact h.uttered
  | execute sql =>
    refine uttered_of_command _ ((ends_execute ht hs sql).mono ?_ (fun _ _ h => h)) ?_
    · intro _ s' h
      obtain ⟨hadmits, payload, haccepted⟩ := h
      exact ⟨hadmits, [payload], haccepted⟩
    · intro hadmits bs
      have hfits := Config.fits_of_exceedsLimit_eq_false hadmits.limit
      exact .execute hadmits.ready hfits.1 hfits.2 bs
  | query sql =>
    refine uttered_of_command _ ((ends_query ht hs sql).mono ?_ (fun _ _ h => h)) ?_
    · intro _ s' h
      obtain ⟨hadmits, payloads, -, haccepted, -⟩ := h
      exact ⟨hadmits, payloads, haccepted⟩
    · intro hadmits bs
      have hfits := Config.fits_of_exceedsLimit_eq_false hadmits.limit
      exact .query hadmits.ready hfits.1 hfits.2 bs
  | nextField =>
    apply report_of_ends fun _ s' => Uttered s .nextField s'
    refine (hreading.ends_nextField ht).mono ?_ ?_
    · intro field s' h
      obtain ⟨payload, hreading', -⟩ := h
      exact uttered_of_hears hreading'.hears .nextField
    · intro e s' h
      exact uttered_of_hears h.hears .nextField
  | nextRow =>
    apply report_of_ends fun _ s' => Uttered s .nextRow s'
    refine (hreading.ends_nextRow ht).mono ?_ ?_
    · intro row s' h
      obtain ⟨payload, hreading', -⟩ := h
      exact uttered_of_hears hreading'.hears .nextRow
    · intro e s' h
      exact uttered_of_hears h.hears .nextRow
  | showResults capacity =>
    apply report_showResults_of_ends fun _ s' => Uttered s (.showResults capacity) s'
    refine (hreading.ends_showResults ht _).mono ?_ ?_
    · intro rows x h
      obtain ⟨more, haccepted⟩ := h
      exact uttered_of_hears haccepted.hears (.showResults capacity)
    · intro e x h
      exact uttered_of_hears h.hears (.showResults capacity)
  | ping =>
    refine uttered_of_command _ ((ends_ping ht hs).mono ?_ (fun _ _ h => h)) ?_
    · intro _ s' h
      obtain ⟨hready, payload, haccepted⟩ := h
      exact ⟨hready, [payload], haccepted⟩
    · intro hready bs
      exact .ping hready bs
  | close =>
    apply report_of_ends fun _ s' => Uttered s .close s'
    refine (ends_close_turns ht hs).mono ?_ (fun _ _ h => h.elim)
    intro _ s' h
    rcases h with h | ⟨hready, h⟩
    · exact ⟨[], h.trans (List.append_nil _).symm, .silent _⟩
    · exact ⟨_, h, .close hready⟩

/-! ### Runs -/

/-- A `connect` of the session reads a greeting. The packet is the first thing that
it hears, and can be parsed as one. -/
def Greeted (s : Session (Recorded τ)) : Prop :=
  ∃ payload greeting, Greeting.parse payload = .ok greeting
    ∧ s.turns ++ hear (Packet.frame ⟨0, payload⟩) <+: (Operation.connect.perform s).2.turns

/-- What fails on the way to a session is abandoned, and it is not authenticated
then. -/
theorem ends_connect_state {τ : Type} [Transport τ] (s : Session τ) :
    Ends connect s (fun _ _ => True) (fun _ s' => s' = s ∨ s'.state ≠ .authenticated) := by
  simp only [connect, ends_bind, ends_get, ends_ensure, ends_ofExcept, ends_modify, ends_tryCatch,
    ends_throw]
  split
  case isFalse => exact .inl trivial
  case isTrue =>
    split
    case h_1 =>
      -- A session that is abandoned is rejected or disconnected.
      have habandon (s₁ : Session τ) : s₁.abandon.state ≠ .authenticated := by
        unfold abandon
        dsimp only
        split
        case isTrue => decide
        case isFalse => decide
      have hlogin (s₁ : Session τ) : Ends login s₁ (fun _ _ => True)
          (fun _ s' => s'.abandon = s ∨ s'.abandon.state ≠ .authenticated) := by
        refine (maintains_const True login s₁ trivial).mono (fun _ _ _ => trivial) ?_
        intro _ s' _
        exact .inr (habandon s')
      refine (maintains_const True _ _ trivial).mono ?_ ?_
      · intro _ s₁ _
        exact hlogin s₁
      · intro _ s' _
        exact .inr (habandon s')
    case h_2 => exact .inl trivial

/-- Nobody gets in without being greeted. This is read off how an opening ends that
leaves the session authenticated. -/
theorem greeted_of_authenticated {s : Session (Recorded τ)} (hs : s.state ≠ .authenticated)
    (h : (Operation.connect.perform s).2.state = .authenticated) : Greeted s := by
  -- What a call leaves is told by the ends of its body, so the goal is put as a law.
  have hend : (Operation.connect.perform s).2.state = .authenticated →
      ∃ payload greeting, Greeting.parse payload = .ok greeting
        ∧ s.turns ++ hear (Packet.frame ⟨0, payload⟩)
          <+: (Operation.connect.perform s).2.turns := by
    apply report_of_ends fun _ s' => s'.state = .authenticated → ∃ payload greeting,
      Greeting.parse payload = .ok greeting
        ∧ s.turns ++ hear (Packet.frame ⟨0, payload⟩) <+: s'.turns
    refine ((ends_connect_turns Recorded.tally rfl).and (ends_connect_state s)).mono ?_ ?_
    · intro _ s' hok _
      obtain ⟨⟨payload, greeting, verdict, hgreets, haccepted⟩, -⟩ := hok
      have hturns := haccepted.turns
      rw [introduced, List.append_assoc] at hturns
      exact ⟨payload, greeting, hgreets.parse, _, hturns.symm⟩
    · intro e s' hbad hstate
      rcases hbad.2 with rfl | hne
      · exact absurd hstate hs
      · exact absurd hstate hne
  exact hend h

/-- Closing does not let anybody in, whatever becomes of the goodbye. -/
theorem maintains_close_unready {τ : Type} [Transport τ] :
    Maintains (fun s : Session τ => s.state ≠ .authenticated) close := by
  apply (lasting_state (· ≠ .authenticated)).maintains_close
  intro s _
  simp

/-- After a `close` the session is not authenticated, whatever it was before and
whether or not the goodbye got through. -/
theorem close_state (s : Session (Recorded τ)) :
    (Operation.close.perform s).2.state = .disconnected := by
  have hstate : Ends close s (fun _ s' => s'.state = .disconnected) (fun _ _ => True) := by
    simp only [close, note, Channel.note, onChannel, ends_bind, ends_focus, ends_modify]
    exact (maintains_const True _ s trivial).mono (fun _ _ _ => trivial) (fun _ _ _ => trivial)
  apply report_of_ends fun _ s' => s'.state = .disconnected
  refine ((ends_close_turns Recorded.tally rfl).and hstate).mono ?_ ?_
  · intro _ s' h
    exact h.2
  · intro _ s' h
    -- Closing does not fail.
    exact h.1.elim

/-- A session that is not authenticated stays so, unless a `connect` is greeted. The
induction is on the operations, and stops at the first one that lets the session in. -/
theorem greeted_of_run_authenticated {s : Session (Recorded τ)} (hs : s.state ≠ .authenticated)
    (operations : List Operation) (h : (run operations s).2.state = .authenticated) :
    ∃ early late, operations = early ++ .connect :: late ∧ Greeted (run early s).2 := by
  induction operations generalizing s with
  | nil => exact absurd h hs
  | cons operation rest ih =>
    by_cases hnext : (operation.perform s).2.state = .authenticated
    · by_cases hoperation : operation = .connect
      · subst hoperation
        exact ⟨[], rest, rfl, greeted_of_authenticated hs hnext⟩
      · -- No other operation authenticates a session.
        have hlasting := lasting_state (τ := Recorded τ) (· ≠ .authenticated)
        have hkept := hlasting.perform_of_ne_connect maintains_close_unready hoperation s hs
        exact absurd hnext hkept
    · obtain ⟨early, late, hrest, hgreeted⟩ := ih hnext h
      subst hrest
      exact ⟨operation :: early, late, rfl, hgreeted⟩

/-- In every run, each operation utters no more than it may: one packet at the most,
the login behind a greeting or the command of an authenticated session. After a
`close` it says nothing, unless it is a `connect` itself or one has been greeted in
the meantime. -/
theorem run_utters (s : Session (Recorded τ)) (earlier : List Operation) (operation : Operation) :
    ∃ exchange,
      (operation.perform (run earlier s).2).2.turns = (run earlier s).2.turns ++ exchange
      ∧ Utters (run earlier s).2 operation exchange
      ∧ (exchange.filterMap said?).length ≤ 1
      ∧ (∀ buffer ∈ exchange.filterMap said?, Framed buffer)
      ∧ ∀ before after, earlier = before ++ .close :: after →
        exchange.filterMap said? = [] ∨ operation = .connect
          ∨ ∃ early late, after = early ++ .connect :: late
            ∧ Greeted (run (before ++ .close :: early) s).2 := by
  obtain ⟨exchange, hturns, hutters⟩ := perform_uttered (run earlier s).2 operation
  refine ⟨exchange, hturns, hutters, hutters.framed.1, hutters.framed.2, ?_⟩
  rintro before after rfl
  rw [run_append] at hutters
  -- What an authenticated session sends was earned by a login since it was closed.
  by_cases hready : (run (.close :: after) (run before s).2).2.state = .authenticated
  · have hclosed : (Operation.close.perform (run before s).2).2.state ≠ .authenticated := by
      rw [close_state]
      decide
    obtain ⟨early, late, hafter, hgreeted⟩ := greeted_of_run_authenticated hclosed after hready
    refine .inr (.inr ⟨early, late, hafter, ?_⟩)
    rw [run_append]
    exact hgreeted
  · rcases hutters.silent_or_connect hready with hsilent | hconnect
    · exact .inl hsilent
    · exact .inr (.inl hconnect)

end

end Session

end SqlWire
