import SqlWire.Proofs.Session.Steady
import SqlWire.Proofs.Transport.Latched

/-!
# Between two operations a session is settled

A session stores three things apart from each other: how far it has got, what its
transport says of being connected, and the column count of the announced result set.
Between two operations they agree (`Session.Settled`): the session is disconnected,
authenticated or rejected, it is authenticated exactly if the transport is
connected, and a session that is not has no announced columns.

Inside an operation they do not. `connect` passes through three more states, and a
connected transport comes before an authenticated session; so it is followed step by
step. `close` ends in agreement whatever it starts from. All other operations keep
the state, and only `execute` writes the column count, behind its check that the
session is authenticated: for them the agreement is a lasting fact.
-/

set_option autoImplicit false

namespace SqlWire

open SqlWire.Action

namespace Session

variable {τ : Type} [Transport τ]

/-- State, transport and column count agree. None of the three is computed from the
others, so this is an invariant and not a definition of one of them. -/
structure Settled (s : Session τ) : Prop where
  state : s.state = .disconnected ∨ s.state = .authenticated ∨ s.state = .rejected
  connected_iff : Transport.isConnected s.channel.transport = true ↔ s.state = .authenticated
  columnCount : s.state ≠ .authenticated → s.columnCount = 0

/-- The session takes commands, over a connected transport. It may have announced
any number of columns, for a result set may be half read. -/
structure Ready (s : Session τ) : Prop where
  state : s.state = .authenticated
  connected : Transport.isConnected s.channel.transport = true

/-- A session that takes commands is settled, whatever it has announced. -/
theorem Ready.settled {s : Session τ} (h : s.Ready) : s.Settled where
  state := .inr (.inl h.state)
  connected_iff := ⟨fun _ => h.state, fun _ => h.connected⟩
  columnCount hne := absurd h.state hne

/-- Of the channel, the agreement is about the connection alone. So what a channel
does without connecting or closing keeps it. -/
theorem sees_settled :
    Sees (fun c : Channel τ => Transport.isConnected c.transport) (Settled (τ := τ)) := by
  intro s c hc hs
  have hconnected : Transport.isConnected c.transport
      = Transport.isConnected s.channel.transport := hc
  refine ⟨hs.state, ?_, hs.columnCount⟩
  show Transport.isConnected c.transport = true ↔ s.state = .authenticated
  rw [hconnected]
  exact hs.connected_iff

/-- Packets, replies and announcements keep the agreement. Of all steps of these
only the announcement touches one of the three, and it asks for an authenticated
session first. -/
theorem lasting_settled [LatchedTransport τ] : Lasting (Settled (τ := τ)) where
  toSteady := by
    refine sees_settled.steady LatchedTransport.kept_isConnected ?_
    intro s _ _ _ _ hs
    exact ⟨hs.state, hs.connected_iff, hs.columnCount⟩
  columnCount := by
    intro s columnCount hstate hs
    refine ⟨hs.state, hs.connected_iff, ?_⟩
    intro hne
    exact absurd hstate hne

/-! ### Opening and closing -/

section Opening

/-- A session being opened over a transport that is connected already. Its state is
one of those in between, which is why it is not settled. -/
structure Linked (s : Session τ) : Prop where
  connected : Transport.isConnected s.channel.transport = true
  columnCount : s.columnCount = 0

/-- Of the channel the link is about the connection alone, as the agreement is. -/
theorem sees_linked :
    Sees (fun c : Channel τ => Transport.isConnected c.transport) (Linked (τ := τ)) :=
  fun _ _ hc hs => ⟨hc.trans hs.connected, hs.columnCount⟩

/-- How far the session has got does not matter to the link. -/
theorem Linked.withState (s : Session τ) (state : SessionState) (h : s.Linked) :
    Linked { s with state } :=
  ⟨h.connected, h.columnCount⟩

variable [LatchedTransport τ]

/-- The transport has let the client in only where this succeeds. Where it fails,
after however many attempts, there is nothing to be said of the connection, which is
given up then. -/
theorem ends_openTransport_linked (remaining made : Nat) (last : Option IoError) (s : Session τ)
    (hs : s.columnCount = 0) :
    Ends (openTransport remaining made last) s (fun _ s' => s'.Linked)
      (fun _ s' => s'.columnCount = 0) := by
  apply ends_openTransport (I := fun s' => s'.columnCount = 0)
  · intro s' event hs'
    exact hs'
  · intro host port s' hs'
    refine (LatchedTransport.connect host port _).mono ?_ (fun _ _ _ => hs')
    intro _ t ht
    exact ⟨ht, hs'⟩
  · intro _ _ _ s' hs'
    exact hs'
  · exact hs

/-- Packets and replies keep the link: sending and receiving neither connect nor
close. -/
theorem steady_linked : Steady (Linked (τ := τ)) := by
  refine sees_linked.steady LatchedTransport.kept_isConnected ?_
  intro s _ _ _ _ hs
  exact ⟨hs.connected, hs.columnCount⟩

/-- Only an accepted login ends with success, and then the session is ready. A
verdict of any other kind leaves what has to be given up. -/
theorem ends_readVerdict (greeting : Greeting) (s : Session τ) (hs : s.Linked) :
    Ends (readVerdict greeting) s (fun _ s' => s'.Ready) (fun _ s' => s'.columnCount = 0) := by
  rw [readVerdict, ends_bind]
  refine (steady_linked.receive s hs).mono ?_ (fun _ _ h => h.columnCount)
  intro packet s₁ h₁
  cases packet.kind with
  | ok =>
    dsimp only
    rw [ends_bind]
    refine (maintains_decode Linked _ _ _ s₁ h₁).mono ?_ (fun _ _ h => h.columnCount)
    intro reply s₂ h₂
    simp only [recordOk, note, Channel.note, onChannel, ends_bind, ends_get, ends_focus,
      ends_modify]
    -- Only this arm authenticates, and the flag has been up since the connection.
    exact ⟨rfl, h₂.connected⟩
  | error =>
    dsimp only
    rw [ends_bind]
    refine (maintains_decode Linked _ _ _ s₁ h₁).mono ?_ (fun _ _ h => h.columnCount)
    intro reply s₂ h₂
    simp only [note, Channel.note, onChannel, ends_bind, ends_focus, ends_modify, ends_throw]
    exact h₂.columnCount
  | eof | data => exact h₁.columnCount

/-- A login over a connected transport ends with a session that is ready, or fails
and leaves no columns announced. -/
theorem ends_login (s : Session τ) (hs : s.Linked) :
    Ends login s (fun _ s' => s'.Ready) (fun _ s' => s'.columnCount = 0) := by
  rw [login, ends_bind]
  refine (steady_linked.maintains_readGreeting Linked.withState s hs).mono
    ?_ (fun _ _ h => h.columnCount)
  intro greeting s₁ h₁
  rw [ends_bind]
  refine (steady_linked.maintains_sendLogin Linked.withState greeting s₁ h₁).mono
    ?_ (fun _ _ h => h.columnCount)
  intro _ s₂ h₂
  exact ends_readVerdict greeting s₂ h₂

/-- An opening that is given up leaves a settled session, however far it had got:
the transport is closed, and the state is rejected or disconnected. -/
theorem settled_abandon {s : Session τ} (hs : s.columnCount = 0) : s.abandon.Settled := by
  have hclosed : Transport.isConnected s.abandon.channel.transport = false :=
    LatchedTransport.close _
  -- The transport is closed in both cases; which of the two states remains is `abandon`'s choice.
  by_cases hstate : s.state = .rejected
  · have hrejected : s.abandon.state = .rejected := by simp [abandon, hstate]
    refine ⟨.inr (.inr hrejected), ?_, fun _ => hs⟩
    rw [hclosed, hrejected]
    simp
  · have hdisconnected : s.abandon.state = .disconnected := by simp [abandon, hstate]
    refine ⟨.inl hdisconnected, ?_, fun _ => hs⟩
    rw [hclosed, hdisconnected]
    simp

/-- Opening ends in agreement if it starts in it. The steps in between do not keep
it, so success ends in a ready session and every failure past the checks is given
up. -/
theorem maintains_settled_connect : Maintains (Settled (τ := τ)) connect := by
  intro s hs
  simp only [connect, ends_bind, ends_get, ends_ensure, ends_ofExcept, ends_modify, ends_tryCatch,
    ends_throw]
  split
  case isFalse => exact hs
  case isTrue hclosed =>
    -- A transport that is not connected means that no columns are announced either.
    have hcount : s.columnCount = 0 := by
      apply hs.columnCount
      intro hstate
      rw [hs.connected_iff.mpr hstate] at hclosed
      cases hclosed
    split
    -- A configuration that is not valid is refused before anything is done.
    case h_2 => exact hs
    case h_1 =>
      refine (ends_openTransport_linked _ _ _ { s with state := .connecting } hcount).mono
        ?_ (fun e s₁ h₁ => settled_abandon h₁)
      intro _ s₁ h₁
      exact (ends_login s₁ h₁).mono (fun _ s₂ h₂ => h₂.settled)
        (fun e s₂ h₂ => settled_abandon h₂)

/-- Closing ends in agreement whatever it starts from, since it sets all three. -/
theorem maintains_settled_close : Maintains (Settled (τ := τ)) close := by
  apply lasting_settled.maintains_close
  intro s _
  refine ⟨.inl rfl, ?_, fun _ => rfl⟩
  show Transport.isConnected (Transport.close s.channel.transport) = true ↔ _
  rw [LatchedTransport.close]
  simp

end Opening

/-! ### Runs -/

section Runs

variable {τ : Type} [FiniteTransport τ]

/-- Every operation keeps a session settled, however it ends. This is the step that
the run is made of. -/
theorem settled_perform [LatchedTransport τ] (operation : Operation) (s : Session τ)
    (hs : s.Settled) : (operation.perform s).2.Settled :=
  lasting_settled.perform maintains_settled_connect maintains_settled_close operation s hs

/-- A session that has just been made over a transport that is not connected is
settled. -/
theorem settled_ofTransport {t : τ} (config : Config) (ht : Transport.isConnected t = false) :
    (ofTransport t config).Settled where
  state := .inl rfl
  connected_iff := by
    show Transport.isConnected t = true ↔ SessionState.disconnected = .authenticated
    rw [ht]
    simp
  columnCount _ := rfl

/-- Whatever is done with a session, in any order and with any outcomes, leaves it
settled, if its transport was not connected at first. A session that is not
authenticated has no announced columns, and a row read from it carries none. -/
theorem settled_run [LatchedTransport τ] (t : τ) (config : Config) (operations : List Operation)
    (ht : Transport.isConnected t = false) :
    let s := (run operations (ofTransport t config)).2
    s.Settled ∧ ∀ row s', s.state ≠ .authenticated → nextRow.run s = .ok (some row) s' →
      row.columnCount = 0 := by
  intro s
  have hs : s.Settled := run_of_perform settled_perform operations (settled_ofTransport config ht)
  refine ⟨hs, ?_⟩
  intro row s' hstate hrow
  rw [(ends_nextRow_columnCount s).ok_of_run hrow row rfl]
  exact hs.columnCount hstate

/-- A server that greets in a protocol of its own is refused, twice, and what is
asked of the session in between and afterwards leaves it settled. -/
theorem settled_run_ungreeted :
    let t : MemoryTransport := { incoming := [1, 0, 0, 0, 9, 1, 0, 0, 0, 9, 1, 0, 0, 0, 0xFB] }
    Transport.isConnected t = false
      ∧ (run [.connect, .ping, .connect, .query "SELECT 1", .nextRow, .close, .connect]
          (ofTransport t { user := "app" })).2.Settled := by
  intro t
  exact ⟨rfl, (settled_run t _ _ rfl).1⟩

end Runs

end Session

end SqlWire
