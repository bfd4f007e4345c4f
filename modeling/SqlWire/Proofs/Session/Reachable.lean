import SqlWire.Proofs.Session.Steady

/-!
# Sessions that can be come by

A program makes a session over a transport, asks it for one thing after another,
takes its events and acts on the transport behind its back, in any order
(`Session.Reachable`). Whatever it does, the session keeps the poll budget that it
was made with, which is one at least, and an authenticated session is one whose
configuration can work (`Reachable.workable`): the check stands at the beginning of
`connect`, and no other operation authenticates a session or changes its
configuration.
-/

set_option autoImplicit false

namespace SqlWire.Session

open SqlWire.Action

variable {τ : Type}

/-- A session that a program can come by. Besides what the operations make of it, a
program may exchange the transport underneath and take the events away. -/
inductive Reachable [FiniteTransport τ] : Session τ → Prop
  | ofTransport (t : τ) (config : Config) : Reachable (.ofTransport t config)
  | perform {s : Session τ} (operation : Operation) (h : Reachable s) :
      Reachable (operation.perform s).2
  | mapTransport {s : Session τ} (f : τ → τ) (h : Reachable s) : Reachable (s.mapTransport f)
  | takeEvents {s : Session τ} (h : Reachable s) : Reachable s.takeEvents.2

/-- The session has a poll to spend on each wait, and commands only under a
configuration that can work. -/
structure Workable (s : Session τ) : Prop where
  readAttempts : 0 < s.channel.readAttempts
  valid : s.state = .authenticated → s.config.validate = .ok ()

/-- What the session was made with. No operation ever changes it, so it can be asked
of the session at any time. -/
structure MadeWith (config : Config) (readAttempts : Nat) (s : Session τ) : Prop where
  config : s.config = config
  readAttempts : s.channel.readAttempts = readAttempts

variable {config : Config} {readAttempts : Nat}

/-- Of the channel only the poll budget counts for this. So neither bytes nor
numbers nor events can change it. -/
theorem sees_madeWith :
    Sees Channel.readAttempts (MadeWith (τ := τ) config readAttempts) := by
  intro s c hc hs
  exact ⟨hs.config, hc.trans hs.readAttempts⟩

/-- Only the poll budget counts for a session to be workable as well; the rest of
what is asked is about the session itself. -/
theorem sees_workable : Sees Channel.readAttempts (Workable (τ := τ)) := by
  intro s c hc hs
  exact ⟨Nat.lt_of_lt_of_eq hs.readAttempts hc.symm, hs.valid⟩

variable [Transport τ]

/-- Packets, events and replies do not touch what the session was made with. This
covers every step of the commands and of the reads. -/
theorem steady_madeWith : Steady (MadeWith (τ := τ) config readAttempts) := by
  apply sees_madeWith.steady Channel.kept_readAttempts
  intro s _ _ _ _ hs
  exact ⟨hs.config, hs.readAttempts⟩

/-- A workable session stays so under commands and reads, since the state does not
change under them. -/
theorem lasting_workable : Lasting (Workable (τ := τ)) where
  toSteady := by
    apply sees_workable.steady Channel.kept_readAttempts
    intro s _ _ _ _ hs
    exact ⟨hs.readAttempts, hs.valid⟩
  columnCount _ _ _ hs := ⟨hs.readAttempts, hs.valid⟩

/-! ### Opening a session -/

/-- Neither do the attempts to connect, whatever the transport makes of them and
however often it is asked. -/
theorem maintains_madeWith_openTransport (remaining made : Nat) (last : Option IoError) :
    Maintains (MadeWith (τ := τ) config readAttempts) (openTransport remaining made last) := by
  intro s hs
  apply ends_openTransport (I := MadeWith config readAttempts)
  · intro s' event hs'
    exact ⟨hs'.config, hs'.readAttempts⟩
  · intro host port s' hs'
    refine (maintains_const True _ _ trivial).mono ?_ ?_
    · intro _ t _
      exact ⟨hs'.config, hs'.readAttempts⟩
    · intro _ t _
      exact ⟨hs'.config, hs'.readAttempts⟩
  · intro _ _ _ s' hs'
    exact hs'
  · exact hs

/-- Nor does an opening as a whole, whether it succeeds or is abandoned. Abandoning
it closes the transport and puts the state back. -/
theorem maintains_madeWith_connect :
    Maintains (MadeWith (τ := τ) config readAttempts) connect := by
  have hlogin : Maintains (MadeWith (τ := τ) config readAttempts) login :=
    steady_madeWith.maintains_login fun _ _ _ _ hs => ⟨hs.config, hs.readAttempts⟩
  apply Maintains.bind maintains_get
  intro s
  apply Maintains.bind (maintains_ensure _ _)
  intro _
  apply Maintains.bind (.ofExcept _)
  intro _
  refine .bind (maintains_modify fun _ hs => ⟨hs.config, hs.readAttempts⟩) ?_
  intro _
  -- What fails in between is caught, abandoned, and thrown again.
  refine .tryCatch (.bind (maintains_madeWith_openTransport _ _ _) fun _ => hlogin) ?_
  intro e
  refine .bind (maintains_modify fun _ hs => ⟨hs.config, hs.readAttempts⟩) ?_
  intro _
  exact maintains_throw _

/-- Where opening gets anywhere, the configuration has been checked. So a session
that comes out authenticated has a valid one. -/
theorem maintains_workable_connect : Maintains (Workable (τ := τ)) connect := by
  intro s hs
  by_cases hvalid : s.config.validate = .ok ()
  · have hkept {s' : Session τ} (h : MadeWith s.config s.channel.readAttempts s') :
        Workable s' := by
      refine ⟨?_, ?_⟩
      · rw [h.readAttempts]
        exact hs.readAttempts
      · intro _
        rw [h.config]
        exact hvalid
    have hend := maintains_madeWith_connect s ⟨rfl, rfl⟩
    exact hend.mono (fun _ _ h => hkept h) (fun _ _ h => hkept h)
  -- The check has no third outcome, and where it fails nothing has been done.
  · have hrefused : ∃ e, s.config.validate = .error e := by
      cases hresult : s.config.validate with
      | ok => exact absurd hresult hvalid
      | error e => exact ⟨e, rfl⟩
    obtain ⟨e, hrun⟩ := run_connect_refused (.inr hrefused)
    rw [Ends, hrun]
    exact hs

/-- A session that has been closed is not authenticated, so nothing is asked of its
configuration. -/
theorem maintains_workable_close : Maintains (Workable (τ := τ)) close := by
  apply lasting_workable.maintains_close
  intro s hs
  refine ⟨hs.readAttempts, ?_⟩
  intro hstate
  cases hstate

/-! ### Reachable sessions -/

/-- A program can go on with any run. The induction is on the operations, from
whatever session can be come by. -/
theorem Reachable.run {τ : Type} [FiniteTransport τ] {s : Session τ} (h : Reachable s)
    (operations : List Operation) : Reachable (Session.run operations s).2 := by
  refine run_of_perform ?_ operations h
  intro operation s' hs'
  exact hs'.perform operation

/-- Every session that a program can come by is workable: a poll at least may be
spent, and an authenticated session has a valid configuration. -/
theorem Reachable.workable {τ : Type} [FiniteTransport τ] {s : Session τ} (h : Reachable s) :
    s.Workable := by
  induction h with
  | ofTransport t config =>
    refine ⟨Nat.lt_of_lt_of_le Nat.zero_lt_one (Nat.le_max_right _ _), ?_⟩
    intro hstate
    cases hstate
  | perform operation _ ih =>
    exact lasting_workable.perform maintains_workable_connect maintains_workable_close operation
      _ ih
  | mapTransport f _ ih => exact ⟨ih.readAttempts, ih.valid⟩
  | takeEvents _ ih => exact ⟨ih.readAttempts, ih.valid⟩

end SqlWire.Session
