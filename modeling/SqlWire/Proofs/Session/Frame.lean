import SqlWire.Proofs.Channel.Frame
import SqlWire.Session.Operation

/-!
# What the steps of a session leave alone

Most steps of a session act on its channel or decode a packet. The former keep every
fact that is not about the channel, and every fact that sees no more of the channel
than what they keep of it (`Session.Sees`); the latter keep every fact.
`Session.Bookkeeping` gathers what a session remembers of its server, apart from how
far it has got.

`run_of_perform` is the induction over runs: what every operation keeps, every run
keeps.
-/

set_option autoImplicit false

namespace SqlWire

/-- What an operation failed with, if it did. It can be compared, which a result
with a session in it cannot. -/
def Report.error? (r : Report) : Option Error :=
  match r.result with
  | .ok _ => none
  | .error e => some e

/-- There is an error on a report just where the result is that error. -/
theorem Report.error?_eq_some_iff {r : Report} {e : Error} :
    r.error? = some e ↔ r.result = .error e := by
  unfold error?
  cases hresult : r.result with
  | ok answer => simp
  | error e' => simp

/-- What an operation answered, if it succeeded. It is used where a run on given
bytes is computed. -/
def Report.answer? (r : Report) : Option Answer :=
  match r.result with
  | .ok answer => some answer
  | .error _ => none

/-- There is an answer on a report just where the result is that answer. -/
theorem Report.answer?_eq_some_iff {r : Report} {answer : Answer} :
    r.answer? = some answer ↔ r.result = .ok answer := by
  unfold answer?
  cases hresult : r.result with
  | ok answer' => simp
  | error e => simp

namespace Session

open SqlWire.Action

variable {τ : Type}

/-- What a session remembers of its server and of the replies to its commands. The
state, the configuration and the channel are left out: they say how far the session
has got, not what it was told. -/
structure Bookkeeping where
  serverVersion : Option String
  connectionId : UInt32
  columnCount : Nat
  affectedRows : UInt64
  lastInsertId : UInt64
  statusFlags : UInt16
  warnings : UInt16
deriving DecidableEq, Repr

/-- The bookkeeping of a session, gathered from its fields. -/
def bookkeeping (s : Session τ) : Bookkeeping where
  serverVersion := s.serverVersion
  connectionId := s.connectionId
  columnCount := s.columnCount
  affectedRows := s.affectedRows
  lastInsertId := s.lastInsertId
  statusFlags := s.statusFlags
  warnings := s.warnings

/-- An action on the channel keeps what is not about the channel. The hypothesis
says this by putting any other channel in its place. -/
theorem maintains_onChannel {α : Type} {I : Session τ → Prop}
    (hI : ∀ (s : Session τ) (c : Channel τ), I s → I { s with channel := c })
    (action : EStateM Error (Channel τ) α) : Maintains I (onChannel action) := by
  intro s hs
  rw [onChannel, ends_focus]
  refine (maintains_const True action s.channel trivial).mono ?_ ?_
  · intro _ c _
    exact hI s c hs
  · intro _ c _
    exact hI s c hs

/-- A fact about a session that sees of the channel only a view of it. The view may
be the transport, the number that is due, or anything else that some actions keep. -/
def Sees {β : Type} (view : Channel τ → β) (I : Session τ → Prop) : Prop :=
  ∀ (s : Session τ) (c : Channel τ), view c = view s.channel → I s → I { s with channel := c }

/-- An action that keeps the view keeps what sees no more. So an invariant of
sessions comes down to a single law about channels. -/
theorem Sees.maintains_onChannel {α β : Type} {view : Channel τ → β} {I : Session τ → Prop}
    (hI : Sees view I) {action : EStateM Error (Channel τ) α}
    (h : ∀ b, Maintains (fun c => view c = b) action) : Maintains I (onChannel action) := by
  intro s hs
  rw [onChannel, ends_focus]
  refine (h _ s.channel rfl).mono ?_ ?_
  · intro _ c hc
    exact hI s c hc hs
  · intro _ c hc
    exact hI s c hc hs

/-- What a channel keeps true of the transport, it keeps true within a session. -/
theorem maintains_onChannel_transport {α : Type} {J : τ → Prop}
    {action : EStateM Error (Channel τ) α} (h : Maintains (fun c => J c.transport) action) :
    Maintains (fun s : Session τ => J s.channel.transport) (onChannel action) :=
  .focus (fun _ => rfl) fun _ => h

/-- Decoding a packet does nothing to the session. It gives a value or fails, both
out of the packet alone. -/
theorem maintains_decode {α : Type} (I : Session τ → Prop) (reader : Reader α) (complaint : String)
    (packet : Packet) : Maintains I (decode reader complaint packet) := by
  unfold decode
  split
  case h_1 => exact maintains_pure _
  case h_2 => exact maintains_throw _

/-- What follows the check for an authenticated session may rely on it. Where the
check refuses, nothing has been done. -/
theorem maintains_requireReady_bind {α : Type} {I : Session τ → Prop} {next : SessionM τ α}
    (h : Maintains (fun s => I s ∧ s.state = .authenticated) next) :
    Maintains I (requireReady >>= fun _ => next) := by
  intro s hs
  simp only [requireReady, ends_bind, ends_get, ends_ensure]
  split
  case isTrue hstate =>
    refine (h s ⟨hs, hstate⟩).mono ?_ ?_
    · intro a s' hs'
      exact hs'.1
    · intro e s' hs'
      exact hs'.1
  case isFalse => exact hs

/-- What is written does not touch the session. The output stands beside it as a
component of its own. -/
theorem maintains_writeLine (I : Session τ → Prop) (text : String) :
    Maintains (fun x : Session τ × Sink => I x.1) (writeLine text) :=
  .focus (fun _ => rfl) fun (s, _) => maintains_const (I s) _

/-- A report says what its action came to, and leaves the session as the action
does. So a law about an operation is proved about its action, and read off the
report by this. -/
theorem report_of_ends {α : Type} (P : Except Error Answer → Session τ → Prop)
    {action : SessionM τ α} {s : Session τ} {answer : α → Answer}
    (h : Ends action s (fun a s' => P (.ok (answer a)) s') (fun e s' => P (.error e) s')) :
    P (Operation.report answer action s).1.result (Operation.report answer action s).2 := by
  unfold Ends at h
  unfold Operation.report
  cases hrun : action.run s with
  | ok a s' =>
    rw [hrun] at h
    exact h
  | error e s' =>
    rw [hrun] at h
    exact h

/-- An operation keeps what its action keeps, and reporting changes nothing of it. -/
theorem report_of_maintains {α : Type} {I : Session τ → Prop} {action : SessionM τ α}
    (h : Maintains I action) (answer : α → Answer) {s : Session τ} (hs : I s) :
    I (Operation.report answer action s).2 :=
  report_of_ends (fun _ s' => I s') (h s hs)

/-- A report of success is that of an action that succeeded, with an answer made
from its value. -/
theorem run_eq_ok_of_report {α : Type} {action : SessionM τ α} {answer : α → Answer}
    {s : Session τ} {b : Answer} (h : (Operation.report answer action s).1.result = .ok b) :
    ∃ a, answer a = b
      ∧ action.run s = .ok a (Operation.report answer action s).2 := by
  unfold Operation.report at h ⊢
  cases hrun : action.run s with
  | ok a s' =>
    rw [hrun] at h
    exact ⟨a, Except.ok.inj h, rfl⟩
  | error e s' =>
    rw [hrun] at h
    cases h

/-- The display runs beside an output, so its report is not of the common form. It
is read in the same way all the same, with the output left out. -/
theorem report_showResults_of_ends [FiniteTransport τ] (P : Except Error Answer → Session τ → Prop)
    {s : Session τ} {capacity : Option Nat}
    (h : Ends showResults (s, { capacity }) (fun rows x => P (.ok (.shown rows)) x.1)
      (fun e x => P (.error e) x.1)) :
    P ((Operation.showResults capacity).perform s).1.result
      ((Operation.showResults capacity).perform s).2 := by
  unfold Ends at h
  unfold Operation.perform
  dsimp only
  cases hrun : showResults.run (s, { capacity }) with
  | ok rows x =>
    rw [hrun] at h
    exact h
  | error e x =>
    rw [hrun] at h
    exact h

/-- What every operation keeps, every run keeps. The induction is on the operations,
and a failed one goes on with what it has left of the session. -/
theorem run_of_perform [FiniteTransport τ] {I : Session τ → Prop}
    (h : ∀ (operation : Operation) (s : Session τ), I s → I (operation.perform s).2)
    (operations : List Operation) {s : Session τ} (hs : I s) : I (run operations s).2 := by
  induction operations generalizing s with
  | nil => exact hs
  | cons operation rest ih => exact ih (h operation s hs)

/-- A run may be cut anywhere. The later part begins where the earlier one has
ended. -/
theorem run_append [FiniteTransport τ] (earlier later : List Operation) (s : Session τ) :
    (run (earlier ++ later) s).2 = (run later (run earlier s).2).2 := by
  induction earlier generalizing s with
  | nil => rfl
  | cons operation earlier ih => exact ih (operation.perform s).2

/-- A row carries the column count that the session holds. So a row that is read
outside a result set carries none. -/
theorem ends_nextRow_columnCount [Transport τ] (s : Session τ) :
    Ends nextRow s (fun row _ => ∀ r ∈ row, r.columnCount = s.columnCount) (fun _ _ => True) := by
  rw [nextRow, ends_bind]
  -- Receiving is done on the channel and leaves the count alone; only then the row is made.
  have hreceive : Maintains (fun s' : Session τ => s'.columnCount = s.columnCount)
      (onChannel Channel.receive) := maintains_onChannel (fun _ _ h => h) _
  refine (hreceive s rfl).mono ?_ (fun _ _ _ => trivial)
  intro packet s₁ h₁
  cases packet.kind with
  | eof =>
    dsimp only
    rw [ends_bind]
    refine (maintains_const True _ s₁ trivial).mono ?_ (fun _ _ _ => trivial)
    intro reply s₂ _
    simp [recordEof]
  | error =>
    dsimp only
    rw [ends_bind]
    exact (maintains_const True _ s₁ trivial).mono (fun _ _ _ => trivial) (fun _ _ _ => trivial)
  | ok | data =>
    simp only [ends_bind, ends_get, ends_pure, Option.mem_def, Option.some.injEq, forall_eq']
    exact h₁

/-- A session whose transport is connected, or whose configuration cannot work,
stays as it is. Both are tested before anything is done. -/
theorem run_connect_refused [Transport τ] {s : Session τ}
    (h : Transport.isConnected s.channel.transport = true ∨ ∃ e, s.config.validate = .error e) :
    ∃ e, connect.run s = .error e s := by
  by_cases hconnected : Transport.isConnected s.channel.transport = true
  · refine ⟨.connectionTrouble .connect "Already connected; close the connection first", ?_⟩
    simp [connect, hconnected]
  · obtain ⟨e, he⟩ := h.resolve_left hconnected
    exact ⟨e, by simp [connect, hconnected, he]⟩

end Session

end SqlWire
