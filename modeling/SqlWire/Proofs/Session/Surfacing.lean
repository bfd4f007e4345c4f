import SqlWire.Proofs.Session.Awaited
import SqlWire.Proofs.Session.Handshake

/-!
# A server's error is surfaced whole

A server may answer with an error wherever it is to speak: in place of the greeting,
of the verdict on the login, of the reply to a command, of a field or of a row.
`Reaches` lists these places, each with the bytes that bring the error there and
with how it is to be reported. `perform_surfaces` says that it is: whenever these
bytes arrive, the operation fails, with an error that shows the server's number,
SQLSTATE and message unchanged, and reads no byte more.

Bytes arrive in two ways (`Arrives`). Over any transport, they have been delivered
to the operation, whatever came of it. Then the proof compares two readings of the
same bytes. What the operation has read is known from how it ended, as whole packets
up to a rest that does not begin with the next one; what has arrived is known from
the place. So the packet of the error is among those read
(`Packet.prefix_of_stream_append`), and only an operation that failed with it has
read one. Or they are due, on a transport that delivers them if it is asked, and the
operation is in a position to ask (`Listens`). Then it comes upon them
(`Reaches.surfaces_of_due`).
-/

set_option autoImplicit false

namespace SqlWire

open SqlWire.Action Turn

namespace Session

section

variable {τ : Type} {s s' : Session (Recorded τ)} {before : List Turn} {start : UInt8}
  {others : List Bytes} {r : ServerError}

/-- What a session has heard is what its transport has delivered: the turns and the
record of bytes are two views of the same calls. -/
theorem heard_turns (s : Session (Recorded τ)) :
    s.channel.transport.turns.filterMap heard? = s.taken :=
  (Recorded.taken_eq _).symm

/-- A command is said and not heard, so it adds nothing to what has been delivered. -/
theorem heard_command (s : Session (Recorded τ)) (payload : Bytes) :
    (s.channel.transport.turns ++ [Turn.command payload]).filterMap heard? = s.taken := by
  rw [List.filterMap_append, heard_turns]
  exact List.append_nil _

/-- What a session has heard since some turns is what its transport has delivered
since. -/
theorem taken_of_tells {more : Bytes}
    (h : Recorded.Tells (before ++ hear more) s.channel.transport) :
    s.taken = before.filterMap heard? ++ more := by
  have hturns : s.channel.transport.turns = before ++ hear more := h
  rw [taken, Recorded.taken_eq, hturns, List.filterMap_append, filterMap_heard_hear]

/-! ### Two readings of the same bytes -/

/-- Packets that have arrived are among those that were read, if the rest that was
read does not begin with the next one. Both lists of packets start at the same byte
and under the same number, so they can only run alike. -/
theorem prefix_of_arrived {payloads : List Bytes} {tail : Bytes}
    (hturns : Recorded.Tells (before ++ hear (Packet.stream start payloads ++ tail))
      s'.channel.transport)
    (hpayloads : ∀ p ∈ payloads, p.length < 0x1000000)
    (hlacks : Packet.Lacks (start + UInt8.ofNat payloads.length) tail)
    (hothers : ∀ p ∈ others, p.length < 0x1000000)
    (h : before.filterMap heard? ++ Packet.stream start others <+: s'.taken) :
    others <+: payloads := by
  rw [taken_of_tells hturns, List.prefix_append_right_inj] at h
  obtain ⟨more, hmore⟩ := h
  exact Packet.prefix_of_stream_append hpayloads hothers hlacks hmore.symm

/-- The packets that bring an error, with others before it, are short enough to be
read one by one. -/
theorem short_concat (hr : r.WellFormed) (hothers : ∀ p ∈ others, p.length < 0x1000000) :
    ∀ p ∈ others ++ [r.payload], p.length < 0x1000000 := by
  intro p hp
  rcases List.mem_append.mp hp with hp | hp
  · exact hothers p hp
  · rw [List.mem_singleton.mp hp]
    exact hr.short

/-- An operation that succeeded has read no error, so none has arrived at it behind
the packets that are to come before it. -/
theorem Accepted.not_arrived {payloads : List Bytes}
    (h : Accepted Recorded.Tells before start payloads s') (hr : r.WellFormed)
    (hothers : ∀ p ∈ others, p.length < 0x1000000) :
    ¬ before.filterMap heard? ++ Packet.stream start (others ++ [r.payload]) <+: s'.taken := by
  intro harrived
  have hturns : Recorded.Tells (before ++ hear (Packet.stream start payloads ++ []))
      s'.channel.transport := by
    rw [List.append_nil]
    exact h.turns
  have hwithin := prefix_of_arrived hturns h.short (Packet.lacks_nil _) (short_concat hr hothers)
    harrived
  exact h.unmarked r.payload (hwithin.subset (by simp)) r.head?_payload

/-- One that failed has failed with the error, which is the last packet that it
read. The two cases are the two ways to fail: over something that is no refusal, and
with a refusal. -/
theorem Cut.of_arrived {blame : List Bytes → ErrReply → Error} {e : Error}
    (h : Cut Recorded.Tells before start blame e s') (hr : r.WellFormed)
    (hothers : ∀ p ∈ others, p.length < 0x1000000)
    (harrived : before.filterMap heard? ++ Packet.stream start (others ++ [r.payload])
      <+: s'.taken) :
    e = blame others r.reply
      ∧ s'.taken = before.filterMap heard? ++ Packet.stream start (others ++ [r.payload]) := by
  have hshort := short_concat hr hothers
  cases h with
  | lost turns short unrefused lacks failure =>
    -- What was lost has no packet in it that can be read as a refusal; this one can.
    have hwithin := prefix_of_arrived turns short lacks hshort harrived
    have hnone := unrefused r.payload (hwithin.subset (by simp)) r.head?_payload
    rw [hr.run?_payload] at hnone
    cases hnone
  | @refused payloads payload reply _ turns short unmarked marked read =>
    have hturns : Recorded.Tells
        (before ++ hear (Packet.stream start (payloads ++ [payload]) ++ []))
        s'.channel.transport := by
      rw [List.append_nil]
      exact turns
    have hwithin := prefix_of_arrived hturns short (Packet.lacks_nil _) hshort harrived
    -- Both lists end in an error and have none before it, so they are the same.
    rcases List.prefix_concat_iff.mp hwithin with hsame | hless
    · obtain ⟨rfl, hpayload⟩ := List.append_inj' hsame rfl
      obtain rfl : r.payload = payload := by simpa using hpayload
      rw [hr.run?_payload, Option.some.injEq] at read
      rw [read]
      exact ⟨rfl, taken_of_tells turns⟩
    · exact absurd r.head?_payload (unmarked r.payload (hless.subset (by simp)))

/-! ### Places -/

/-- Where an error may reach a session: the operation that it reaches, the bytes
that bring it there, and how it is to be reported. The bytes fix the numbers of the
packets, since packets under other numbers are refused before they are looked at. -/
inductive Reaches (r : ServerError) (s : Session (Recorded τ)) :
    Operation → Bytes → Surface → Prop
  /-- In place of the greeting. -/
  | greeting : Reaches r s .connect (Packet.frame ⟨0, r.payload⟩)
      ⟨"Server refused connection: " ++ r.message, false, none⟩
  /-- As the verdict on the login, behind a greeting. -/
  | verdict {payload : Bytes} {greeting : Greeting} (parse : Greeting.parse payload = .ok greeting)
      (short : payload.length < 0x1000000) :
      Reaches r s .connect (Packet.frame ⟨0, payload⟩ ++ Packet.frame ⟨2, r.payload⟩)
        ⟨"Authentication failed: " ++ r.message, true, none⟩
  | execute (sql : Bytes) : Reaches r s (.execute sql) (Packet.frame ⟨1, r.payload⟩)
      ⟨r.message, false, some (Utf8.decode sql)⟩
  | ping : Reaches r s .ping (Packet.frame ⟨1, r.payload⟩) ⟨r.message, false, none⟩
  | nextField : Reaches r s .nextField (Packet.frame ⟨s.channel.sequence, r.payload⟩)
      ⟨r.message, false, none⟩
  | nextRow : Reaches r s .nextRow (Packet.frame ⟨s.channel.sequence, r.payload⟩)
      ⟨r.message, false, none⟩
  /-- As the whole answer to a query. -/
  | query (sql : String) : Reaches r s (.query sql) (Packet.frame ⟨1, r.payload⟩)
      ⟨r.message, false, some sql⟩
  /-- In place of a field or of a row of its result set. -/
  | queryPart (sql : String) {others : List Bytes} (nonempty : others ≠ [])
      (short : ∀ p ∈ others, p.length < 0x1000000) :
      Reaches r s (.query sql) (Packet.stream 1 (others ++ [r.payload])) ⟨r.message, false, none⟩
  | showResults (capacity : Option Nat) {others : List Bytes}
      (short : ∀ p ∈ others, p.length < 0x1000000) :
      Reaches r s (.showResults capacity) (Packet.stream s.channel.sequence (others ++ [r.payload]))
        ⟨r.message, false, none⟩

/-- The operation has failed with the error that the bytes bring, and has read no
byte more. -/
def Surfaced (r : ServerError) (s : Session (Recorded τ)) (bytes : Bytes) (surface : Surface)
    (result : Except Error Answer) (s' : Session (Recorded τ)) : Prop :=
  ∃ e, result = .error e ∧ e.Shows r surface ∧ s'.taken = s.taken ++ bytes

/-- If the bytes have been delivered, the error has been surfaced. Where they have
not, this says nothing, so it holds of an operation that was refused or cut short
before. -/
def Surfaces (r : ServerError) (s : Session (Recorded τ)) (bytes : Bytes) (surface : Surface)
    (result : Except Error Answer) (s' : Session (Recorded τ)) : Prop :=
  s.taken ++ bytes <+: s'.taken → Surfaced r s bytes surface result s'

variable {surface : Surface} {result : Except Error Answer} {bytes : Bytes}

/-- Packets that end in an error take bytes, whatever comes before it and however
short it is. -/
theorem stream_concat_ne_nil (start : UInt8) (others : List Bytes) (payload : Bytes) :
    Packet.stream start (others ++ [payload]) ≠ [] := by
  have hlength := Packet.length_le_length_stream start (others ++ [payload])
  rw [List.length_append, List.length_singleton] at hlength
  intro hnil
  rw [hnil, List.length_nil] at hlength
  omega

/-- So does a single packet. -/
theorem frame_ne_nil (p : Packet) : p.frame ≠ [] := by
  rw [← Packet.stream_singleton]
  exact stream_concat_ne_nil p.sequence [] p.payload

/-- The error that an action meets is the one that it surfaces, if it shows what it
is to show. -/
theorem Meets.surfaced {α : Type} {action : SessionM (Recorded τ) α} {e : Error}
    (h : Meets action s e (s.taken ++ bytes)) (he : e.Shows r surface) (answer : α → Answer) :
    Surfaced r s bytes surface (Operation.report answer action s).1.result
      (Operation.report answer action s).2 := by
  apply report_of_ends (Surfaced r s bytes surface)
  refine Ends.mono h (fun _ _ hfalse => hfalse.elim) ?_
  intro e' s' hfailed
  obtain ⟨rfl, htaken⟩ := hfailed
  exact ⟨_, rfl, he, htaken⟩

/-- Where nothing has been done, nothing has been delivered: the bytes do not fit
between what was taken before and what has been taken since. -/
theorem not_delivered_of_idle (hbytes : bytes ≠ []) : ¬ s.taken ++ bytes <+: s.taken := by
  intro hdelivered
  have hlength := hdelivered.length_le
  have hpos := List.length_pos_iff.mpr hbytes
  rw [List.length_append] at hlength
  omega

/-- An operation that has done nothing has been reached by nothing, so there is
nothing that it would have to surface. -/
theorem surfaces_of_idle (hbytes : bytes ≠ []) : Surfaces r s bytes surface result s := by
  intro harrived
  exact absurd harrived (not_delivered_of_idle hbytes)

/-- An operation that succeeded surfaces what it was not reached by. -/
theorem Accepted.surfaces {payloads : List Bytes}
    (h : Accepted Recorded.Tells before start payloads s') (hr : r.WellFormed)
    (hbefore : before.filterMap heard? = s.taken) (hothers : ∀ p ∈ others, p.length < 0x1000000) :
    Surfaces r s (Packet.stream start (others ++ [r.payload])) surface result s' := by
  intro harrived
  rw [← hbefore] at harrived
  exact absurd harrived (h.not_arrived hr hothers)

/-- One that failed surfaces the error if it is blamed for it as it is to be at this
place. -/
theorem Cut.surfaces {blame : List Bytes → ErrReply → Error} {e : Error}
    (h : Cut Recorded.Tells before start blame e s') (hr : r.WellFormed)
    (hbefore : before.filterMap heard? = s.taken) (hothers : ∀ p ∈ others, p.length < 0x1000000)
    (hblame : (blame others r.reply).Shows r surface) :
    Surfaces r s (Packet.stream start (others ++ [r.payload])) surface (.error e) s' := by
  intro harrived
  rw [← hbefore] at harrived
  obtain ⟨rfl, htaken⟩ := h.of_arrived hr hothers harrived
  rw [hbefore] at htaken
  exact ⟨_, rfl, hblame, htaken⟩

/-- A command that was declined has not been reached; the answer to any other is
read as far as the error. -/
theorem surfaces_of_command {α : Type} {action : SessionM (Recorded τ) α} (answer : α → Answer)
    {sql : Option Bytes} {P : Prop} {command : Bytes}
    (h : Ends action s
      (fun _ s' => ∃ payloads, Accepted Recorded.Tells
        (s.channel.transport.turns ++ [.command command]) 1 payloads s')
      (fun e s' => Declined s e s' ∨ P ∧ Cut Recorded.Tells
        (s.channel.transport.turns ++ [.command command]) 1 (blameOn sql) e s'))
    (hr : r.WellFormed) (hothers : ∀ p ∈ others, p.length < 0x1000000)
    (hsurface : (blameOn sql others r.reply).Shows r surface) :
    Surfaces r s (Packet.stream 1 (others ++ [r.payload])) surface
      (Operation.report answer action s).1.result (Operation.report answer action s).2 := by
  apply report_of_ends (Surfaces r s _ _)
  refine h.mono ?_ ?_
  · intro _ s' h
    obtain ⟨payloads, haccepted⟩ := h
    exact haccepted.surfaces hr (heard_command s command) hothers
  · intro e s' h
    rcases h with hdeclined | ⟨-, hcut⟩
    · -- However it was declined, the session is the one from before.
      cases hdeclined with
      | notReady | tooLong => exact surfaces_of_idle (stream_concat_ne_nil _ _ _)
    · exact hcut.surfaces hr (heard_command s command) hothers hsurface

/-- A read comes upon the error at once: the packet is the first that it receives. -/
theorem surfaces_of_read {α : Type} {action : SessionM (Recorded τ) (Option α)}
    (answer : Option α → Answer)
    (h : Ends action s
      (fun a s' => Next Recorded.Tells s.channel.transport.turns s.channel.sequence (blameOn none)
        [] a s')
      (fun e s' => Cut Recorded.Tells s.channel.transport.turns s.channel.sequence (blameOn none)
        e s'))
    (hr : r.WellFormed) :
    Surfaces r s (Packet.frame ⟨s.channel.sequence, r.payload⟩) ⟨r.message, false, none⟩
      (Operation.report answer action s).1.result (Operation.report answer action s).2 := by
  rw [← Packet.stream_singleton]
  apply report_of_ends (Surfaces r s _ _)
  refine h.mono ?_ ?_
  · intro _ s' h
    obtain ⟨payload, hreading, -⟩ := h
    exact hreading.surfaces hr (heard_turns s) (List.forall_mem_nil _)
  · intro e s' h
    exact h.surfaces hr (heard_turns s) (List.forall_mem_nil _) (hr.shows_refusal _)

/-! ### The handshake -/

/-- Of two packets at the front of what has been heard, the first is the greeting
that was read, and the second is at the front of what was read behind it. -/
theorem greeting_of_arrived {greeting payload more bs : Bytes}
    (hgreeting : greeting.length < 0x1000000) (hpayload : payload.length < 0x1000000)
    (htaken : s'.taken = s.taken ++ (Packet.frame ⟨0, greeting⟩ ++ bs))
    (harrived : s.taken ++ (Packet.frame ⟨0, payload⟩ ++ more) <+: s'.taken) :
    payload = greeting ∧ more <+: bs := by
  rw [htaken, List.prefix_append_right_inj] at harrived
  obtain ⟨rest, hrest⟩ := harrived
  rw [List.append_assoc] at hrest
  obtain ⟨hsame, hmore⟩ := Packet.frame_append_inj (p := ⟨0, payload⟩) (q := ⟨0, greeting⟩)
    hpayload hgreeting hrest
  exact ⟨(Packet.mk.inj hsame).2, rest, hmore⟩

/-- Whoever has greeted and been answered has been heard to greet. The login is
said, so of the two turns only one is heard. -/
theorem heard_introduced (config : Config) (payload : Bytes) (greeting : Greeting) :
    (introduced s.channel.transport.turns config payload greeting).filterMap heard?
      = s.taken ++ Packet.frame ⟨0, payload⟩ := by
  rw [introduced, List.filterMap_append, List.filterMap_append, filterMap_heard_hear, heard_turns]
  exact List.append_nil _

/-- Where a greeting is all that was heard, it is all that was delivered. The empty
rest makes this an instance of what may come behind a greeting. -/
theorem taken_of_greeting {payload : Bytes}
    (h : Recorded.Tells (s.channel.transport.turns ++ hear (Packet.frame ⟨0, payload⟩))
      s'.channel.transport) : s'.taken = s.taken ++ (Packet.frame ⟨0, payload⟩ ++ []) := by
  rw [taken_of_tells h, heard_turns, List.append_nil]

/-- Whoever has been let as far as the verdict has been greeted with a greeting, and
the rest of what was delivered came behind it. -/
theorem taken_of_introduced {config : Config} {payload : Bytes} {greeting : Greeting}
    (h : ∃ bs, Recorded.Tells (introduced s.channel.transport.turns config payload greeting
      ++ hear bs) s'.channel.transport) :
    ∃ bs, s'.taken = s.taken ++ (Packet.frame ⟨0, payload⟩ ++ bs) := by
  obtain ⟨bs, hbs⟩ := h
  refine ⟨bs, ?_⟩
  rw [taken_of_tells hbs, heard_introduced, List.append_assoc]

/-- Where a greeting has been answered, no error has come in its place: an error is
not read as a greeting. -/
theorem Greets.not_arrived {config : Config} {payload : Bytes} {greeting : Greeting}
    (hgreets : Greets config payload greeting)
    (h : ∃ bs, Recorded.Tells (introduced s.channel.transport.turns config payload greeting
      ++ hear bs) s'.channel.transport) (hr : r.WellFormed) :
    ¬ s.taken ++ Packet.frame ⟨0, r.payload⟩ <+: s'.taken := by
  intro harrived
  rw [← List.append_nil (Packet.frame ⟨0, r.payload⟩)] at harrived
  obtain ⟨bs, htaken⟩ := taken_of_introduced h
  obtain ⟨rfl, -⟩ := greeting_of_arrived hgreets.short hr.short htaken harrived
  have hparse := hgreets.parse
  rw [hr.parse_payload] at hparse
  cases hparse

/-- What has come behind a greeting is an answer to the login that was said to it.
So an error there arrives behind the turns of the introduction, as the laws about a
verdict have it. -/
theorem Greets.arrived {config : Config} {payload other : Bytes} {greeting : Greeting}
    (hgreets : Greets config payload greeting)
    (h : ∃ bs, Recorded.Tells (introduced s.channel.transport.turns config payload greeting
      ++ hear bs) s'.channel.transport) (hother : other.length < 0x1000000)
    (harrived : s.taken ++ (Packet.frame ⟨0, other⟩ ++ Packet.frame ⟨2, r.payload⟩) <+: s'.taken) :
    other = payload
      ∧ (introduced s.channel.transport.turns config payload greeting).filterMap heard?
        ++ Packet.stream 2 ([] ++ [r.payload]) <+: s'.taken := by
  obtain ⟨bs, htaken⟩ := taken_of_introduced h
  obtain ⟨rfl, -⟩ := greeting_of_arrived hgreets.short hother htaken harrived
  rw [heard_introduced, List.nil_append, Packet.stream_singleton, List.append_assoc]
  exact ⟨rfl, harrived⟩

/-- In place of the greeting there is nothing else that could have been read. The
cases are the four ways in which an opening is turned down, and only the one that
refuses the greeting is reached by an error there. -/
theorem Rebuff.surfaces_greeting {config : Config} {e : Error}
    (h : Rebuff Recorded.Tells s.channel.transport.turns config e s') (hr : r.WellFormed) :
    Surfaces r s (Packet.frame ⟨0, r.payload⟩)
      ⟨"Server refused connection: " ++ r.message, false, none⟩ (.error e) s' := by
  intro harrived
  have harrived' : s.taken ++ (Packet.frame ⟨0, r.payload⟩ ++ []) <+: s'.taken := by
    rwa [List.append_nil]
  have hparse := hr.parse_payload
  cases h with
  | unaddressed heard lacks =>
    rw [taken_of_tells heard, heard_turns, List.prefix_append_right_inj] at harrived
    exact absurd harrived (lacks r.payload hr.short)
  | misunderstood parse short heard =>
    -- What could not be read as a greeting is the error, so it was refused with it.
    have htaken := taken_of_greeting heard
    obtain ⟨rfl, -⟩ := greeting_of_arrived short hr.short htaken harrived'
    rw [hparse, Except.error.injEq] at parse
    rw [← parse]
    rw [List.append_nil] at htaken
    exact ⟨_, rfl, hr.shows_refused, htaken⟩
  | speechless parse short heard =>
    obtain ⟨rfl, -⟩ := greeting_of_arrived short hr.short (taken_of_greeting heard) harrived'
    rw [hparse] at parse
    cases parse
  | turnedAway greets h => exact absurd harrived (greets.not_arrived h.hears hr)

/-- As the verdict, the error comes behind a greeting that was read and answered. Of
the four ways in which an opening is turned down it is the last, and it is turned
away by this error. -/
theorem Rebuff.surfaces_verdict {config : Config} {e : Error}
    (h : Rebuff Recorded.Tells s.channel.transport.turns config e s') (hr : r.WellFormed)
    {payload : Bytes} {greeting : Greeting} (hparse : Greeting.parse payload = .ok greeting)
    (hshort : payload.length < 0x1000000) :
    Surfaces r s (Packet.frame ⟨0, payload⟩ ++ Packet.frame ⟨2, r.payload⟩)
      ⟨"Authentication failed: " ++ r.message, true, none⟩ (.error e) s' := by
  intro harrived
  cases h with
  | unaddressed heard lacks =>
    rw [taken_of_tells heard, heard_turns, List.prefix_append_right_inj] at harrived
    exact absurd ((List.prefix_append _ _).trans harrived) (lacks payload hshort)
  | misunderstood parse short heard =>
    obtain ⟨rfl, -⟩ := greeting_of_arrived short hshort (taken_of_greeting heard) harrived
    rw [hparse] at parse
    cases parse
  | speechless parse short heard =>
    obtain ⟨-, hverdict⟩ := greeting_of_arrived short hshort (taken_of_greeting heard) harrived
    rw [List.prefix_nil, ← Packet.stream_singleton] at hverdict
    exact absurd hverdict (stream_concat_ne_nil 2 [] r.payload)
  -- The one way to fail that reads the whole greeting and the ERR packet behind it.
  | turnedAway greets h =>
    obtain ⟨rfl, hverdict⟩ := greets.arrived h.hears hshort harrived
    obtain ⟨rfl, htaken⟩ := h.of_arrived hr (List.forall_mem_nil _) hverdict
    rw [heard_introduced, List.nil_append, Packet.stream_singleton, List.append_assoc] at htaken
    exact ⟨_, rfl, hr.shows_loginRefusal, htaken⟩

/-! ### All places -/

end

section

variable {τ : Type} [FiniteTransport τ] {s : Session (Recorded τ)} {r : ServerError}
  {operation : Operation} {bytes : Bytes} {surface : Surface}

/-- In whichever place the packet of an error has been delivered, the operation has
surfaced it. There is a case for each place, and in each the law about how the
operation ends is compared with what has arrived. -/
theorem Reaches.surfaces_of_delivered (hplace : Reaches r s operation bytes surface)
    (hr : r.WellFormed) (harrived : s.taken ++ bytes <+: (operation.perform s).2.taken) :
    Surfaced r s bytes surface (operation.perform s).1.result (operation.perform s).2 := by
  have ht := Recorded.tally (τ := τ)
  have hreading : Reading Recorded.Tells s.channel.transport.turns s.channel.sequence
    (blameOn none) [] s := .here rfl
  have hnone : ∀ p ∈ ([] : List Bytes), p.length < 0x1000000 := List.forall_mem_nil _
  have hsurfaces : Surfaces r s bytes surface (operation.perform s).1.result
      (operation.perform s).2 := by
    cases hplace with
    | greeting =>
      apply report_of_ends (Surfaces r s _ _)
      refine (ends_connect_turns ht rfl).mono ?_ ?_
      · intro _ s' h harrived
        obtain ⟨payload, greeting, verdict, hgreets, haccepted⟩ := h
        exact absurd harrived (hgreets.not_arrived haccepted.hears hr)
      · intro e s' h
        rcases h with rfl | h
        · exact surfaces_of_idle (frame_ne_nil _)
        · exact h.surfaces_greeting hr
    | verdict parse short =>
      apply report_of_ends (Surfaces r s _ _)
      refine (ends_connect_turns ht rfl).mono ?_ ?_
      · intro _ s' h harrived
        obtain ⟨payload, greeting, verdict, hgreets, haccepted⟩ := h
        obtain ⟨-, hverdict⟩ := hgreets.arrived haccepted.hears short harrived
        exact absurd hverdict (haccepted.not_arrived hr hnone)
      · intro e s' h
        rcases h with rfl | h
        · exact surfaces_of_idle (List.append_ne_nil_of_left_ne_nil (frame_ne_nil _) _)
        · exact h.surfaces_verdict hr parse short
    | execute sql =>
      rw [← Packet.stream_singleton]
      refine surfaces_of_command _ ((ends_execute ht rfl sql).mono ?_
        (fun _ _ h => h)) hr hnone (hr.shows_refusal _)
      intro _ s' h
      obtain ⟨-, payload, haccepted⟩ := h
      exact ⟨[payload], haccepted⟩
    | ping =>
      rw [← Packet.stream_singleton]
      refine surfaces_of_command _ ((ends_ping ht rfl).mono ?_
        (fun _ _ h => h)) hr hnone (hr.shows_refusal _)
      intro _ s' h
      obtain ⟨-, payload, haccepted⟩ := h
      exact ⟨[payload], haccepted⟩
    | nextField => exact surfaces_of_read _ (hreading.ends_nextField ht) hr
    | nextRow => exact surfaces_of_read _ (hreading.ends_nextRow ht) hr
    | query sql =>
      have hshows := hr.shows_refusal (some (Utf8.encode sql))
      rw [Option.map_some, Utf8.decode_encode] at hshows
      rw [← Packet.stream_singleton]
      refine surfaces_of_command _ ((ends_query ht rfl sql).mono ?_
        (fun _ _ h => h)) hr hnone hshows
      intro _ s' h
      obtain ⟨-, payloads, -, haccepted, -⟩ := h
      exact ⟨payloads, haccepted⟩
    | @queryPart sql others nonempty short =>
      -- The error is not the first packet of the answer, so it is not about the query.
      have hshows : (blameOn (some (Utf8.encode sql)) others r.reply).Shows r
          ⟨r.message, false, none⟩ := by
        rw [blameOn, if_neg nonempty]
        exact hr.shows_refusal none
      refine surfaces_of_command _ ((ends_query ht rfl sql).mono ?_
        (fun _ _ h => h)) hr short hshows
      intro _ s' h
      obtain ⟨-, payloads, -, haccepted, -⟩ := h
      exact ⟨payloads, haccepted⟩
    | showResults capacity short =>
      apply report_showResults_of_ends (Surfaces r s _ _)
      refine (hreading.ends_showResults ht _).mono ?_ ?_
      · intro _ x h
        obtain ⟨more, haccepted⟩ := h
        exact haccepted.surfaces hr (heard_turns s) short
      · intro e x h
        refine h.surfaces hr (heard_turns s) short ?_
        rw [blameOn, ite_self]
        exact hr.shows_refusal none
  exact hsurfaces harrived

/-! ### What is due -/

/-- An operation that is in a position to read, on a transport with these bytes to
deliver next. A command needs a session that admits it; an opening needs a transport
that is not connected and lets the client in, and a login that fits one packet. -/
inductive Listens (holds : Recorded τ → Bytes → Nat → Prop) (s : Session (Recorded τ))
    (bytes : Bytes) : Operation → Prop
  | connect (closed : Transport.isConnected s.channel.transport = false)
      (valid : s.config.validate = .ok ())
      (fits : ∀ seed, (Login.ofConfig s.config seed).encode.length < maxPayload)
      (fronts : Ends (Transport.connect s.config.host s.config.port) s.channel.transport
        (fun _ t => Fronts holds bytes t) (fun _ _ => False)) : Listens holds s bytes .connect
  | execute {sql : Bytes} (admits : s.Admits sql)
      (fronts : Fronts holds bytes s.channel.transport) : Listens holds s bytes (.execute sql)
  | ping (ready : s.state = .authenticated) (fronts : Fronts holds bytes s.channel.transport) :
      Listens holds s bytes .ping
  | nextField (fronts : Fronts holds bytes s.channel.transport) : Listens holds s bytes .nextField
  | nextRow (fronts : Fronts holds bytes s.channel.transport) : Listens holds s bytes .nextRow

/-- In whichever place the packet of an error is due, an operation that listens
comes upon it and surfaces it. Here nothing is assumed of how the operation ends. -/
theorem Reaches.surfaces_of_due (hplace : Reaches r s operation bytes surface)
    (hr : r.WellFormed) {holds : Recorded τ → Bytes → Nat → Prop}
    (hsupply : Channel.Supply s.channel.readAttempts holds)
    (hlistens : Listens holds s bytes operation) :
    Surfaced r s bytes surface (operation.perform s).1.result (operation.perform s).2 := by
  cases hlistens with
  | connect closed valid fits fronts =>
    cases hplace with
    | greeting =>
      refine (meets_connect closed valid fronts fun s₁ hdue _ => ?_).surfaced hr.shows_refused _
      exact hdue.meets_greeting hsupply hr
    -- Between the greeting and the verdict stands the login, which must fit one packet.
    | verdict parse short =>
      refine (meets_connect closed valid fronts fun s₁ hdue hconfig => ?_).surfaced
        hr.shows_loginRefusal _
      rw [← hconfig] at fits
      exact hdue.meets_login hsupply hr parse short (fits _)
  | execute admits fronts =>
    cases hplace
    exact (Due.meets_execute hsupply hr ⟨fronts, rfl⟩ admits).surfaced (hr.shows_refusal _) _
  | ping ready fronts =>
    cases hplace
    exact (Due.meets_ping hsupply hr ⟨fronts, rfl⟩ ready).surfaced (hr.shows_refusal _) _
  | nextField fronts =>
    cases hplace
    exact (Due.meets_nextField hsupply hr ⟨fronts, rfl⟩).surfaced (hr.shows_refusal _) _
  | nextRow fronts =>
    cases hplace
    exact (Due.meets_nextRow hsupply hr ⟨fronts, rfl⟩).surfaced (hr.shows_refusal _) _

/-! ### Arrival -/

/-- Bytes arrive at an operation if it has been given them, or if it listens and its
transport has them to deliver. -/
inductive Arrives (s : Session (Recorded τ)) (operation : Operation) (bytes : Bytes) : Prop
  | delivered (h : s.taken ++ bytes <+: (operation.perform s).2.taken)
  | due {holds : Recorded τ → Bytes → Nat → Prop}
      (supply : Channel.Supply s.channel.readAttempts holds)
      (listens : Listens holds s bytes operation)

/-- A server's error is surfaced whole. In whichever place its packet arrives, the
operation fails, with an error that shows the server's number, SQLSTATE and message,
and that says of the credentials and of the query what the place says; the packet is
the last that is read. -/
theorem perform_surfaces (hr : r.WellFormed) (hplace : Reaches r s operation bytes surface)
    (harrives : Arrives s operation bytes) :
    Surfaced r s bytes surface (operation.perform s).1.result (operation.perform s).2 := by
  cases harrives with
  | delivered h => exact hplace.surfaces_of_delivered hr h
  | due hsupply hlistens => exact hplace.surfaces_of_due hr hsupply hlistens

/-- The same error, in each of the places: as the greeting, as the verdict, as the
reply to a statement and to a ping, in place of a field and in place of a row. -/
theorem perform_surfaces_lost_lock :
    let r : ServerError := ⟨1205, some "HY000", "Lock wait timeout"⟩
    let greeting : Bytes := [10, 0x35, 0, 7, 0, 0, 0, 1, 1, 1, 1, 1, 1, 1, 1, 0, 0, 2, 8, 2, 0, 0,
      0, 0, 0, 0, 0, 0, 0, 0, 0, 0, 0, 0, 2, 2, 2, 2, 2, 2, 2, 2, 2, 2, 2, 2, 0]
    let session (state : SessionState) (sequence : UInt8) (incoming : Bytes) :
        Session (Recorded MemoryTransport) :=
      { state, config := { user := "app" }
        channel := {
          transport := { inner := { connected := state == .authenticated, incoming } }
          sequence, readAttempts := 10 } }
    let surfaced (state : SessionState) (sequence : UInt8) (operation : Operation) (bytes : Bytes)
        (surface : Surface) : Prop :=
      let s := session state sequence (bytes ++ [7])
      Reaches r s operation bytes surface ∧ Arrives s operation bytes
        ∧ Surfaced r s bytes surface (operation.perform s).1.result (operation.perform s).2
    r.WellFormed
      ∧ surfaced .disconnected 0 .connect (Packet.frame ⟨0, r.payload⟩)
        ⟨"Server refused connection: Lock wait timeout", false, none⟩
      ∧ surfaced .disconnected 0 .connect
        (Packet.frame ⟨0, greeting⟩ ++ Packet.frame ⟨2, r.payload⟩)
        ⟨"Authentication failed: Lock wait timeout", true, none⟩
      ∧ surfaced .authenticated 0 (.execute [0x53]) (Packet.frame ⟨1, r.payload⟩)
        ⟨"Lock wait timeout", false, some "S"⟩
      ∧ surfaced .authenticated 0 .ping (Packet.frame ⟨1, r.payload⟩)
        ⟨"Lock wait timeout", false, none⟩
      ∧ surfaced .authenticated 2 .nextField (Packet.frame ⟨2, r.payload⟩)
        ⟨"Lock wait timeout", false, none⟩
      ∧ surfaced .authenticated 255 .nextRow (Packet.frame ⟨255, r.payload⟩)
        ⟨"Lock wait timeout", false, none⟩ := by
  intro r greeting session surfaced
  have hr : r.WellFormed := ⟨by decide, by decide, by decide⟩
  have hfronts (inner : MemoryTransport) (bytes : Bytes) (calls : List TransportCall)
      (hconnected : inner.connected = true) (hincoming : inner.incoming = bytes ++ [7]) :
      Fronts (fun t => t.inner.Loaded) bytes ⟨inner, calls⟩ :=
    ⟨[7], inner, ⟨by rw [← hincoming], Nat.zero_le _⟩, hconnected⟩
  have hready (sequence : UInt8) (bytes : Bytes) : Fronts (fun t => t.inner.Loaded) bytes
      (session .authenticated sequence (bytes ++ [7])).channel.transport := hfronts _ _ _ rfl rfl
  have hvalid : Config.validate { user := "app" } = .ok () :=
    Config.validate_eq_ok_iff.mpr (by decide +kernel)
  have hfits (seed : Bytes) :
      (Login.ofConfig { user := "app" } seed).encode.length < maxPayload := by
    have huser : (Utf8.encode "app").length = 3 := by decide
    have hdatabase : (Utf8.encode "").length = 0 := by decide
    simp [Login.encode, Login.ofConfig, Login.encodeAnswer, Login.reservedLength, maxPayload,
      huser, hdatabase]
  have hopen (bytes : Bytes) : Listens (fun t => t.inner.Loaded)
      (session .disconnected 0 (bytes ++ [7])) bytes .connect :=
    .connect rfl hvalid hfits (hfronts _ _ _ rfl rfl)
  have hsurfaced {state : SessionState} {sequence : UInt8} {operation : Operation} {bytes : Bytes}
      {surface : Surface}
      (hplace : Reaches r (session state sequence (bytes ++ [7])) operation bytes surface)
      (hlistens : Listens (fun t => t.inner.Loaded) (session state sequence (bytes ++ [7])) bytes
        operation) : surfaced state sequence operation bytes surface :=
    have harrives := Arrives.due (MemoryTransport.supply_loaded (Nat.zero_lt_succ 9)).recorded
      hlistens
    ⟨hplace, harrives, perform_surfaces hr hplace harrives⟩
  obtain ⟨hello, hparse⟩ : ∃ hello, Greeting.parse greeting = .ok hello := by
    have hok : (Greeting.parse greeting).isOk = true := by decide +kernel
    cases hparse : Greeting.parse greeting with
    | ok hello => exact ⟨hello, rfl⟩
    | error defect =>
      rw [hparse] at hok
      cases hok
  exact ⟨hr, hsurfaced .greeting (hopen _), hsurfaced (.verdict hparse (by decide)) (hopen _),
    hsurfaced (.execute [0x53]) (.execute ⟨rfl, rfl⟩ (hready _ _)),
    hsurfaced .ping (.ping rfl (hready _ _)), hsurfaced .nextField (.nextField (hready _ _)),
    hsurfaced .nextRow (.nextRow (hready _ _))⟩

end

end Session

end SqlWire
