import SqlWire.Proofs.Channel.Account
import SqlWire.Proofs.Channel.Failure
import SqlWire.Proofs.Transport.Recorded
import SqlWire.Transport.Memory

/-!
# What is said and heard

A conversation over a transport is a list of turns: a buffer that was handed to the
transport, or a byte that it delivered. A `Tally` is a way of telling the turns so
far from a transport. A recorded transport has them in its calls (`Recorded.tally`);
a transport in memory shows at least the bytes heard, by those that are left
(`MemoryTransport.tally`).

For any tally, `Tally.ends_receive` and `Tally.ends_send` are what a channel adds to
the conversation: a packet that is received is heard as its frame, and a reading
that fails has heard no whole packet of the number that was due; a packet that is
sent is said as its frame at once.
-/

set_option autoImplicit false

namespace SqlWire

open SqlWire.Action

/-- Something that passes over a transport, in one of the two directions. -/
inductive Turn where
  /-- A buffer handed to the transport, delivered or not. -/
  | said (buffer : Bytes)
  /-- A byte that the transport delivered. -/
  | heard (b : UInt8)
deriving DecidableEq, Repr

namespace Turn

/-- Bytes heard one after another, each a turn of its own. -/
def hear (bs : Bytes) : List Turn :=
  bs.map heard

/-- A command is the first packet of its exchange, so its number is zero. -/
def command (payload : Bytes) : Turn :=
  said (Packet.frame ⟨0, payload⟩)

/-- The buffer handed over in a turn, if it is one in which something is said. -/
def said? : Turn → Option Bytes
  | said buffer => some buffer
  | heard _ => none

/-- The byte heard in a turn, if it is one in which something is heard. -/
def heard? : Turn → Option UInt8
  | said _ => none
  | heard b => some b

/-- No bytes are no turns. -/
@[simp] theorem hear_nil : hear [] = [] := rfl

/-- Bytes heard in two stretches are heard one after another. -/
@[simp] theorem hear_append (bs more : Bytes) : hear (bs ++ more) = hear bs ++ hear more :=
  List.map_append

/-- What is heard is not said, so hearing adds no buffer. -/
@[simp] theorem filterMap_said_hear (bs : Bytes) : (hear bs).filterMap said? = [] := by
  induction bs with
  | nil => rfl
  | cons b bs ih => exact ih

/-- The bytes heard are got back from their turns, in their order. -/
@[simp] theorem filterMap_heard_hear (bs : Bytes) : (hear bs).filterMap heard? = bs := by
  induction bs with
  | nil => rfl
  | cons b bs ih => exact congrArg (b :: ·) ih

end Turn

open Turn

section

variable {τ : Type} [Transport τ]

/-- What a transport shows of the turns so far, and goes on to show whatever it is
asked. A write is a turn whether or not it is delivered, a read only where it
delivers a byte; attempts to connect, polls and closing are none. -/
structure Tally (holds : List Turn → τ → Prop) : Prop where
  readByte : ∀ {turns : List Turn} {t : τ}, holds turns t →
    Ends Transport.readByte t (fun b t' => holds (turns ++ [.heard b]) t')
      (fun _ t' => holds turns t')
  available : ∀ turns : List Turn, Maintains (holds turns) Transport.available
  write : ∀ {turns : List Turn} {t : τ} (bs : Bytes), holds turns t →
    Ends (Transport.write bs) t (fun _ t' => holds (turns ++ [.said bs]) t')
      (fun _ t' => holds (turns ++ [.said bs]) t')
  connect : ∀ (turns : List Turn) (host : String) (port : UInt16),
    Maintains (holds turns) (Transport.connect host port)
  close : ∀ {turns : List Turn} {t : τ}, holds turns t → holds turns (Transport.close t)

namespace Tally

variable {holds : List Turn → τ → Prop}

/-- The bytes heard after some turns are an account of a read. A failure is told to
be one of those that a channel has of its own, which no server reply can be. -/
theorem account (h : Tally holds) (attempts : Nat) (turns : List Turn) :
    Channel.Account attempts (fun bs t => holds (turns ++ hear bs) t)
      (fun e bs t => holds (turns ++ hear bs) t ∧ e.IsChannelFailure) where
  await {bs t} ht := by
    have hkept := Channel.maintains_await (h.available (turns ++ hear bs)) attempts t ht
    -- Waiting delivers nothing, and how it fails is told apart from what it keeps.
    have hfails := Channel.failsOnly_await attempts t
    refine (hkept.and hfails).mono ?_ (fun _ _ h => h)
    intro n t' h'
    obtain ⟨ht', -⟩ := h'
    exact ht'
  takeByte {bs t} ht := by
    rw [Channel.takeByte, ends_adaptExcept]
    refine (h.readByte ht).mono ?_ ?_
    · intro b t' ht'
      rw [hear_append, ← List.append_assoc]
      exact ht'
    · intro e t' ht'
      exact ⟨ht', Channel.isChannelFailure_readFailure e⟩

/-- A packet is heard as its frame. Where there is none, no whole packet has been
heard: what was heard lacks one, be it too short or of another number. -/
theorem ends_receive (h : Tally holds) {turns : List Turn} {c : Channel τ}
    (hc : holds turns c.transport) :
    Ends Channel.receive c
      (fun p c' => holds (turns ++ hear p.frame) c'.transport ∧ p.sequence = c.sequence
        ∧ p.payload.length < 0x1000000 ∧ c'.sequence = c.sequence + 1)
      (fun e c' => e.IsChannelFailure
        ∧ ∃ bs, holds (turns ++ hear bs) c'.transport ∧ Packet.Lacks c.sequence bs) := by
  have hstart : holds (turns ++ hear []) c.transport := by rwa [hear_nil, List.append_nil]
  refine ((h.account c.readAttempts turns).ends_receive hstart).mono (fun p c' hp => hp) ?_
  intro e c' he
  rcases he with ⟨bs, ⟨hbs, hfailure⟩, hunfinished⟩ | ⟨head, hhead, -, hsequence, rfl⟩
  · exact ⟨hfailure, bs, hbs, hunfinished.lacks⟩
  · exact ⟨⟨rfl, rfl⟩, head, hhead, Packet.lacks_of_sequence_ne hsequence⟩

/-- A packet is said as its frame, whatever becomes of it; a payload that does not
fit one packet is not said. So a failure leaves two possibilities, which the length
tells apart. -/
theorem ends_send (h : Tally holds) {turns : List Turn} {c : Channel τ}
    (hc : holds turns c.transport) (payload : Bytes) :
    Ends (Channel.send payload) c
      (fun _ c' => payload.length < maxPayload
        ∧ holds (turns ++ [.said (Packet.frame ⟨c.sequence, payload⟩)]) c'.transport
        ∧ c'.sequence = c.sequence + 1)
      (fun e c' => e.IsChannelFailure
        ∧ (maxPayload ≤ payload.length ∧ holds turns c'.transport
          ∨ payload.length < maxPayload
            ∧ holds (turns ++ [.said (Packet.frame ⟨c.sequence, payload⟩)]) c'.transport)) := by
  simp only [Channel.send, Channel.note, Channel.onTransport, ends_bind, ends_get, ends_ensure,
    ends_modify, ends_focus, ends_adaptExcept]
  split
  case isTrue hlength =>
    refine (h.write (Packet.frame ⟨c.sequence, payload⟩) hc).mono ?_ ?_
    · intro _ t ht
      exact ⟨hlength, ht, trivial⟩
    · intro e t ht
      exact ⟨⟨rfl, rfl⟩, .inr ⟨hlength, ht⟩⟩
  case isFalse hlength =>
    exact ⟨⟨rfl, rfl⟩, .inl ⟨Nat.le_of_not_lt hlength, hc⟩⟩

end Tally

end

/-! ### Recorded transports -/

namespace Recorded

variable {τ : Type}

/-- The turn that a call is, if it is one. Polls, openings and closings are none,
and neither is a read that failed. -/
def turn? : TransportCall → Option Turn
  | .write bs _ => some (.said bs)
  | .readByte (.ok b) => some (.heard b)
  | _ => none

/-- The turns so far, first one first, read off the calls on record. -/
def turns (t : Recorded τ) : List Turn :=
  t.calls.reverse.filterMap turn?

/-- One more call adds the turn that it is, or nothing. The calls are on record
latest first. -/
theorem turns_cons (t : Recorded τ) (inner : τ) (call : TransportCall) :
    turns ⟨inner, call :: t.calls⟩ = t.turns ++ (turn? call).toList := by
  simp only [turns, List.reverse_cons, List.filterMap_append]
  cases hturn : turn? call with
  | none => simp [hturn]
  | some turn => simp [hturn]

/-- The bytes taken are those heard. So what is known of the turns includes what is
known of the bytes. -/
theorem taken_eq (t : Recorded τ) : t.taken = t.turns.filterMap heard? := by
  rw [taken, turns, List.filterMap_filterMap]
  congr 1
  funext call
  rcases call with _ | _ | (_ | _) | _ | _ <;> rfl

/-- The buffers handed over are those said, so a law about turns is one about
buffers. -/
theorem buffers_eq (t : Recorded τ) : t.buffers = t.turns.filterMap said? := by
  rw [buffers, turns, List.filterMap_filterMap]
  congr 1
  funext call
  rcases call with _ | _ | (_ | _) | _ | _ <;> rfl

/-- A call that is no turn leaves the turns as they are, whatever the transport does
in it. -/
theorem maintains_turns_recording {α : Type} {call : Except IoError α → TransportCall}
    (h : ∀ outcome, turn? (call outcome) = none) (turns : List Turn)
    (action : EStateM IoError τ α) :
    Maintains (fun t => t.turns = turns) (recording call action) := by
  refine maintains_recording ?_ action
  intro t inner outcome ht
  rw [turns_cons, h, ht]
  exact List.append_nil turns

/-- The record tells these turns, all that there have been, in this order. -/
def Tells (turns : List Turn) (t : Recorded τ) : Prop :=
  t.turns = turns

/-- The record shows every turn. It is the tally for which everything below is first
proved, since nothing is hidden from it. -/
theorem tally [Transport τ] : Tally (Tells (τ := τ)) where
  readByte := by
    -- A read adds the byte or nothing, a write its buffer even where it fails.
    rintro _ t rfl
    show Ends (recording .readByte Transport.readByte) t _ _
    rw [ends_recording]
    refine (maintains_const True _ t.inner trivial).mono ?_ ?_
    · intro b inner _
      exact turns_cons t inner _
    · intro e inner _
      exact (turns_cons t inner _).trans (List.append_nil _)
  available turns := maintains_turns_recording (fun _ => rfl) turns _
  write := by
    rintro _ t bs rfl
    show Ends (recording (fun r => .write bs (failure? r)) (Transport.write bs)) t _ _
    rw [ends_recording]
    refine (maintains_const True _ t.inner trivial).mono ?_ ?_
    · intro _ inner _
      exact turns_cons t inner _
    · intro _ inner _
      exact turns_cons t inner _
  connect turns host port := maintains_turns_recording (fun _ => rfl) turns _
  close := by
    rintro _ t rfl
    exact (turns_cons t _ _).trans (List.append_nil _)

end Recorded

/-! ### Transports in memory -/

namespace MemoryTransport

/-- The bytes heard since the transport held the given ones are those that it holds
no more. What is said to a transport in memory leaves no trace in what is to come,
so this tally leaves it out. -/
def Heard (origin : Bytes) (turns : List Turn) (t : MemoryTransport) : Prop :=
  origin = turns.filterMap heard? ++ t.incoming

/-- Memory shows what has been heard of it. -/
theorem tally (origin : Bytes) : Tally (Heard origin) where
  readByte {turns t} ht := by
    show Ends readByte t _ _
    simp only [readByte, ends_bind, ends_get]
    split
    -- The byte goes from the front of what is to come to the end of what was heard.
    case h_1 b rest hincoming =>
      show Heard origin (turns ++ [.heard b]) { t with incoming := rest }
      rw [Heard, ht, hincoming, List.filterMap_append, List.append_assoc]
      rfl
    case h_2 => exact ht
  available _ _ ht := ht
  write {turns t} bs ht := by
    have hsaid : Heard origin (turns ++ [.said bs]) t := by
      rw [Heard, ht, List.filterMap_append, List.append_assoc]
      rfl
    show Ends (write bs) t _ _
    simp only [write, ends_bind, ends_get, ends_ensure, ends_set]
    split <;> exact hsaid
  connect _ _ _ t ht := by
    show Ends connect t _ _
    simp only [connect, ends_bind, ends_get]
    split <;> exact ht
  close ht := ht

end MemoryTransport

end SqlWire
