import SqlWire.Proofs.Channel.Frame

/-!
# What a channel enters in its journal

A packet that was received whole is entered, and one that was cut short or refused
is not (`ends_receive_journal`). A payload that is sent is entered whatever the
transport makes of it, unless it does not fit one packet (`ends_send_journal`).
Nothing else that a channel does enters anything.

So the journal tells what packets have come. `Channel.inbox` lists their payloads.
-/

set_option autoImplicit false

namespace SqlWire

open SqlWire.Action

/-- The payload of the packet that an event tells of, if it has come. A packet that
was sent has not come from the server. -/
def Event.arrival? : Event → Option Bytes
  | .received _ payload => some payload
  | _ => none

namespace Channel

variable {τ : Type}

/-- The payloads received since the journal was last taken, first one first. The
journal holds its events last one first, which is why it is turned round. -/
def inbox (c : Channel τ) : List Bytes :=
  c.journal.reverse.filterMap Event.arrival?

/-- An event that is entered adds its payload behind those that have come, or
nothing where it tells of none. -/
theorem inbox_noted (c : Channel τ) (event : Event) :
    (c.noted event).inbox = c.inbox ++ event.arrival?.toList := by
  cases h : event.arrival? with
  | none => simp [inbox, noted, h]
  | some payload => simp [inbox, noted, h]

variable {received : List Bytes}

/-- Whatever is done to the transport alone, nothing is entered for it. The journal
is a field beside the transport, so no action on the transport can reach it. -/
theorem maintains_journal_onTransport {α : Type} {events : List Event}
    (action : EStateM Error τ α) :
    Maintains (fun c => c.journal = events) (onTransport action) := by
  refine .focus (fun _ => rfl) ?_
  intro c
  exact maintains_const (c.journal = events) action

/-- Whatever is done to the transport alone, nothing is received by it. Bytes may
have been taken, but a packet has come only once it is entered. -/
theorem maintains_inbox_onTransport {α : Type} (action : EStateM Error τ α) :
    Maintains (fun c => c.inbox = received) (onTransport action) := by
  refine .focus (fun _ => rfl) ?_
  intro c
  exact maintains_const (c.inbox = received) action

/-- An event that tells of no arrival leaves the payloads received as they are. -/
theorem maintains_inbox_note {event : Event} (h : event.arrival? = none) :
    Maintains (fun c : Channel τ => c.inbox = received) (note event) := by
  apply maintains_modify
  intro c hc
  rw [inbox_noted, h, hc]
  exact List.append_nil _

/-- Beginning to number afresh leaves the payloads received as they are, and enters
nothing. -/
theorem maintains_inbox_resetSequence :
    Maintains (fun c : Channel τ => c.inbox = received) resetSequence := by
  apply maintains_modify
  intro c hc
  exact hc

variable [Transport τ]

/-- Sending leaves the payloads received as they are, whether or not the transport
takes the bytes. -/
theorem maintains_inbox_send (payload : Bytes) :
    Maintains (fun c : Channel τ => c.inbox = received) (send payload) := by
  apply Maintains.bind (maintains_ensure _ _)
  intro _
  apply Maintains.bind maintains_get
  intro c
  apply Maintains.bind (maintains_inbox_note rfl)
  intro _
  refine .bind (maintains_modify fun _ hc => hc) ?_
  intro _
  exact maintains_inbox_onTransport _

/-- A packet that is received is entered; a failure enters nothing. The entry is
made when header and payload have both been read, and nothing can fail after it. -/
theorem ends_receive_journal (c : Channel τ) :
    Ends receive c (fun p c' => c'.journal = .received p.sequence p.payload :: c.journal)
      (fun _ c' => c'.journal = c.journal) := by
  have hheader : Maintains (fun c' : Channel τ => c'.journal = c.journal) receiveHeader := by
    apply Maintains.bind maintains_get
    intro _
    apply Maintains.bind (maintains_journal_onTransport _)
    intro head
    apply Maintains.bind (maintains_ensure _ _)
    intro _
    refine .bind (maintains_modify fun _ hc => hc) ?_
    intro _
    exact maintains_pure _
  rw [receive, ends_bind]
  refine (hheader c rfl).mono ?_ (fun _ _ h => h)
  intro header c₁ h₁
  rw [ends_bind, ends_get, ends_bind]
  refine (maintains_journal_onTransport _ c₁ h₁).mono ?_ (fun _ _ h => h)
  intro payload c₂ h₂
  -- Everything has been read when the packet is entered, so this cannot fail any more.
  simp only [note, ends_bind, ends_modify, ends_pure]
  rw [noted, h₂]

/-- A payload that fits one packet is entered with the number that is due, whatever
the transport makes of it. Any other is refused and changes nothing. -/
theorem ends_send_journal (payload : Bytes) (c : Channel τ) :
    Ends (send payload) c
      (fun _ c' => payload.length < maxPayload
        ∧ c'.journal = .sent c.sequence payload :: c.journal)
      (fun _ c' => maxPayload ≤ payload.length ∧ c' = c
        ∨ payload.length < maxPayload ∧ c'.journal = .sent c.sequence payload :: c.journal) := by
  simp only [send, note, ends_bind, ends_get, ends_ensure, ends_modify]
  split
  case isTrue hlength =>
    -- The entry is made before the bytes are written, so a write that fails comes too
    -- late to undo it.
    refine (maintains_journal_onTransport _ _ rfl).mono ?_ ?_
    · intro _ c' hjournal
      exact ⟨hlength, hjournal⟩
    · intro _ c' hjournal
      exact .inr ⟨hlength, hjournal⟩
  case isFalse hlength => exact .inl ⟨Nat.le_of_not_lt hlength, trivial⟩

/-- A packet that is received adds its payload; a failure adds nothing. So the inbox
tells what the channel has returned. -/
theorem ends_receive_inbox (c : Channel τ) :
    Ends receive c (fun packet c' => c'.inbox = c.inbox ++ [packet.payload])
      (fun _ c' => c'.inbox = c.inbox) := by
  refine (ends_receive_journal c).mono ?_ ?_
  · intro packet c' h
    simp [inbox, h, Event.arrival?]
  · intro _ c' h
    rw [inbox, h]
    rfl

end Channel

end SqlWire
