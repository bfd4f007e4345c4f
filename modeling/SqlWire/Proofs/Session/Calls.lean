import SqlWire.Proofs.Session.Notices
import SqlWire.Proofs.Session.Reachable

/-!
# The calls that have led to a session

`Calls` lists the operations that a session has been asked for since it was made,
each with what became of it, the latest one first. Every session that a program can
come by has such a list (`Reachable.calls`). A value that calls of one kind
establish and that all others leave alone is what the latest call of that kind has
established (`Calls.decided`).
-/

set_option autoImplicit false

namespace SqlWire

/-- An operation that has been carried out, with what became of it and of the
session. -/
structure Call where
  operation : Operation
  result : Except Error Answer
  /-- Payloads of the packets that it received, first one first. -/
  received : List Bytes
  /-- How far the session had got by the end of it. -/
  state : SessionState

/-- The call that an operation is which began with `s`, came to a result and left
`s'`. What it received is what the journal has of packets beyond those of `s`. -/
def Call.of {τ : Type} (operation : Operation) (s : Session τ) (result : Except Error Answer)
    (s' : Session τ) : Call where
  operation
  result
  received := s'.inbox.drop s.inbox.length
  state := s'.state

/-- Carries an operation out and says what became of it. The session goes on as the
operation leaves it. -/
def Operation.call {τ : Type} [FiniteTransport τ] (operation : Operation) (s : Session τ) : Call :=
  .of operation s (operation.perform s).1.result (operation.perform s).2

/-- Where the packets received in between are known, they are those of the call. The
inbox only grows during an operation. -/
theorem Call.received_of {τ : Type} {s s' : Session τ} {payloads : List Bytes}
    (h : s'.inbox = s.inbox ++ payloads) (operation : Operation) (result : Except Error Answer) :
    (Call.of operation s result s').received = payloads := by
  rw [Call.of, h, List.drop_left]

namespace Session

variable {τ : Type} [FiniteTransport τ]

/-- The session has come about by way of these calls, latest one first. Between them
the transport may have been exchanged and the events may have been taken. -/
inductive Calls : Session τ → List Call → Prop
  | ofTransport (t : τ) (config : Config) : Calls (.ofTransport t config) []
  | perform {s : Session τ} {calls : List Call} (operation : Operation) (h : Calls s calls) :
      Calls (operation.perform s).2 (operation.call s :: calls)
  | mapTransport {s : Session τ} {calls : List Call} (f : τ → τ) (h : Calls s calls) :
      Calls (s.mapTransport f) calls
  | takeEvents {s : Session τ} {calls : List Call} (h : Calls s calls) : Calls s.takeEvents.2 calls

/-- Every session that can be come by has come about by way of some calls, latest
first. -/
theorem Reachable.calls {s : Session τ} (h : Reachable s) : ∃ calls, Calls s calls := by
  induction h with
  | ofTransport t config => exact ⟨[], .ofTransport t config⟩
  | perform operation _ ih =>
    obtain ⟨calls, h⟩ := ih
    exact ⟨_, h.perform operation⟩
  | mapTransport f _ ih =>
    obtain ⟨calls, h⟩ := ih
    exact ⟨calls, h.mapTransport f⟩
  | takeEvents _ ih =>
    obtain ⟨calls, h⟩ := ih
    exact ⟨calls, h.takeEvents⟩

section

variable {α : Type} {view : Session τ → α} {initial : α} {decides : Call → Bool}
  {Tells : Call → α → Prop}

/-- How a call leaves what there is to see of a session: as it says, if it is one
that decides, and as it was otherwise. -/
inductive Leaves (view : Session τ → α) (decides : Call → Bool) (Tells : Call → α → Prop)
    (operation : Operation) (s : Session τ) : Except Error Answer → Session τ → Prop
  | said {result : Except Error Answer} {s' : Session τ}
      (deciding : decides (.of operation s result s') = true)
      (tells : Tells (.of operation s result s') (view s')) :
      Leaves view decides Tells operation s result s'
  | kept {result : Except Error Answer} {s' : Session τ}
      (undeciding : decides (.of operation s result s') = false) (same : view s' = view s) :
      Leaves view decides Tells operation s result s'

/-- The calls of one kind decide what there is to see of a session, and nothing is
to be seen of its channel. What happens to the channel between the calls can change
nothing of it then. -/
structure Decided (view : Session τ → α) (initial : α) (decides : Call → Bool)
    (Tells : Call → α → Prop) : Prop where
  ofTransport : ∀ (t : τ) (config : Config), view (.ofTransport t config) = initial
  channel : ∀ (s : Session τ) (c : Channel τ), view { s with channel := c } = view s
  perform : ∀ (operation : Operation) (s : Session τ), Leaves view decides Tells operation s
    (operation.perform s).1.result (operation.perform s).2

/-- A call that does not decide changes nothing: the view is what it was before. -/
theorem Decided.keeps (hview : Decided view initial decides Tells) {operation : Operation}
    {s : Session τ} (h : decides (operation.call s) = false) :
    view (operation.perform s).2 = view s := by
  cases hview.perform operation s with
  | said hdecides =>
    have hboth : false = true := h.symm.trans hdecides
    cases hboth
  | kept _ hsame => exact hsame

/-- What is seen is what the latest of the calls that decide has said, if there was
one. The induction is on the calls, the latest of which is looked at first. -/
theorem Calls.decided (hview : Decided view initial decides Tells) {s : Session τ}
    {calls : List Call} (h : Calls s calls) :
    match calls.find? decides with
    | none => view s = initial
    | some call => Tells call (view s) := by
  -- The latest call is at the front, so either it decides or whatever decided before it.
  induction h with
  | ofTransport t config => exact hview.ofTransport t config
  | @perform s calls operation _ ih =>
    rw [List.find?_cons]
    cases hview.perform operation s with
    | said hdecides htells =>
      rw [Operation.call, hdecides]
      exact htells
    | kept hdecides hsame =>
      rw [Operation.call, hdecides, hsame]
      exact ih
  | @mapTransport s calls f _ ih =>
    have hsame : view (s.mapTransport f) = view s := hview.channel s _
    rwa [hsame]
  | @takeEvents s calls _ ih =>
    have hsame : view s.takeEvents.2 = view s := hview.channel s _
    rwa [hsame]

end

end Session

end SqlWire
