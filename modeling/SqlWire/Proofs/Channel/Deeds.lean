import SqlWire.Proofs.Channel.Frame
import SqlWire.Proofs.Channel.Outcome

/-!
# What a channel has done

A program makes a channel over a transport and asks it to receive, to send and to
begin a new exchange, in any order and whatever comes of it. `Channel.Deeds` lists
what the channel has done since it was made, the latest first: for each request the
calls to the transport, the result, and the number that was due before and is due
after it. Nothing a program asks for changes the poll budget
(`Deeds.readAttempts_eq`).
-/

set_option autoImplicit false

namespace SqlWire.Channel

open SqlWire.Action Recorded

/-- Something that a channel can be asked to do. Sessions ask nothing else of
theirs. -/
inductive Request where
  | receive
  | send (payload : Bytes)
  | resetSequence
deriving DecidableEq, Repr

namespace Request

variable {τ : Type} {α : Type}

/-- What an action comes to, and the channel after it. The answer says which packet,
if any, the value of the action stands for. -/
def report (answer : α → Option Packet) (action : EStateM Error (Channel τ) α) (c : Channel τ) :
    Except Error (Option Packet) × Channel τ :=
  match action.run c with
  | .ok a c' => (.ok (answer a), c')
  | .error e c' => (.error e, c')

/-- Does what is asked; gives the packet received, if there was to be one. The
channel goes on after a failure as the failure has left it. -/
def perform [Transport τ] : Request → Channel τ → Except Error (Option Packet) × Channel τ
  | receive => report some Channel.receive
  | send payload => report (fun _ => none) (Channel.send payload)
  | resetSequence => report (fun _ => none) Channel.resetSequence

/-- A report says what its action came to, and leaves the channel as the action
does. So what is known of the two ends of an action is known of its report. -/
theorem report_of_ends (P : Except Error (Option Packet) → Channel τ → Prop)
    {action : EStateM Error (Channel τ) α} {c : Channel τ} {answer : α → Option Packet}
    (h : Ends action c (fun a c' => P (.ok (answer a)) c') (fun e c' => P (.error e) c')) :
    P (report answer action c).1 (report answer action c).2 := by
  unfold Ends at h
  unfold report
  cases hrun : action.run c with
  | ok a c' =>
    rw [hrun] at h
    exact h
  | error e c' =>
    rw [hrun] at h
    exact h

/-- What no exchange changes of a channel, no request does, however it ends. -/
theorem perform_of_kept [Transport τ] {β : Type} {view : Channel τ → β} (h : Kept view)
    (request : Request) (c : Channel τ) : view (request.perform c).2 = view c := by
  cases request with
  | receive => exact report_of_ends (fun _ c' => view c' = view c) (h.receive _ c rfl)
  | send payload => exact report_of_ends (fun _ c' => view c' = view c) (h.send payload _ c rfl)
  | resetSequence =>
    exact report_of_ends (fun _ c' => view c' = view c) (h.resetSequence _ c rfl)

end Request

/-- A request that has been carried out, with all of it that can be seen from
outside the channel. -/
structure Deed where
  request : Request
  /-- The number that was due before. -/
  due : UInt8
  result : Except Error (Option Packet)
  /-- The calls to the transport, first one first. -/
  log : List TransportCall
  /-- The number that is due afterwards. -/
  next : UInt8

variable {τ : Type}

/-- The deed that a request is which began with `c`, came to a result and left `c'`.
The calls are those that have been recorded beyond the ones recorded at `c`. -/
def Deed.of (request : Request) (c : Channel (Recorded τ)) (result : Except Error (Option Packet))
    (c' : Channel (Recorded τ)) : Deed where
  request
  due := c.sequence
  result
  log := c'.transport.calls.reverse.drop c.transport.calls.length
  next := c'.sequence

/-- Where the calls in between are known, they are the log of the deed. The record
of the transport is longer by just these. -/
theorem Deed.of_since {c c' : Channel (Recorded τ)} {log : List TransportCall}
    (h : Since c.transport c'.transport log) (request : Request)
    (result : Except Error (Option Packet)) :
    Deed.of request c result c' = ⟨request, c.sequence, result, log, c'.sequence⟩ := by
  have hlog : c'.transport.calls.reverse.drop c.transport.calls.length = log := by
    -- The record holds the latest call first; turned round, the earlier calls are in
    -- front.
    rw [h, List.reverse_append, List.reverse_reverse, ← List.length_reverse, List.drop_left]
  rw [Deed.of, hlog]

variable [Transport τ]

/-- Carries a request out and says what became of it. It is one entry of a history
of deeds. -/
def Request.deed (request : Request) (c : Channel (Recorded τ)) : Deed :=
  .of request c (request.perform c).1 (request.perform c).2

/-- The channel has been made with a poll budget and has done this since, the latest
first. The transport may have been acted on in between, for whoever holds the
channel can connect it or close it. -/
inductive Deeds (given : UInt32) : Channel (Recorded τ) → List Deed → Prop
  | ofTransport (t : Recorded τ) : Deeds given (.ofTransport t given) []
  | perform {c : Channel (Recorded τ)} {deeds : List Deed} (request : Request)
      (h : Deeds given c deeds) : Deeds given (request.perform c).2 (request.deed c :: deeds)
  | setTransport {c : Channel (Recorded τ)} {deeds : List Deed} (transport : Recorded τ)
      (h : Deeds given c deeds) : Deeds given { c with transport } deeds

/-- A channel polls as often as it was told to when it was made, and once if that
was not at all. Neither a request nor what happens to the transport changes this. -/
theorem Deeds.readAttempts_eq {given : UInt32} {c : Channel (Recorded τ)} {deeds : List Deed}
    (h : Deeds given c deeds) : c.readAttempts = max given.toNat 1 := by
  induction h with
  | ofTransport t => rfl
  | perform request _ ih => exact (request.perform_of_kept kept_readAttempts _).trans ih
  | setTransport transport _ ih => exact ih

end SqlWire.Channel
