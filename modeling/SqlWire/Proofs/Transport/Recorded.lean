import SqlWire.Proofs.Channel.Account
import SqlWire.Proofs.Channel.Frame
import SqlWire.Transport.Recorded

/-!
# What the record of a transport shows

Two things are read off the calls made to a recorded transport: the bytes that it
has delivered (`Recorded.taken`), and whether it has been closed since an earlier
time (`Recorded.Unclosed`). Connecting, writing and polling deliver nothing, and of
the operations only `close` closes.

`Channel.ends_receive_taken` is what framing comes to on this record: a packet that
was received is the frame of exactly the bytes delivered meanwhile, and it carries
the number that was due.
-/

set_option autoImplicit false

namespace SqlWire

open SqlWire.Action

namespace Recorded

variable {τ : Type}

/-- The byte that a call delivered. Only the read of a byte delivers one, and only
if it succeeds. -/
def delivered? : TransportCall → Option UInt8
  | .readByte (.ok b) => some b
  | _ => none

/-- The bytes that the transport has delivered, first one first, over all calls that
are on record. -/
def taken (t : Recorded τ) : Bytes :=
  t.calls.reverse.filterMap delivered?

/-- One more call adds the byte that it delivered, or nothing. All that is said
below of the bytes taken comes from this. -/
theorem taken_cons (t : Recorded τ) (inner : τ) (call : TransportCall) :
    taken ⟨inner, call :: t.calls⟩ = t.taken ++ (delivered? call).toList := by
  simp only [taken, List.reverse_cons, List.filterMap_append]
  cases hbyte : delivered? call with
  | none => simp [hbyte]
  | some b => simp [hbyte]

/-- The later transport has the record of the earlier one and, beyond it, no call
that closes. -/
def Unclosed (earlier later : Recorded τ) : Prop :=
  ∃ calls, later.calls = calls ++ earlier.calls ∧ .close ∉ calls

/-- Nothing has happened since now, so there has been no closing call either. -/
theorem Unclosed.refl (t : Recorded τ) : t.Unclosed t :=
  ⟨[], rfl, by simp⟩

/-- One more call, other than a closing one, leaves the transport unclosed since
then. -/
theorem Unclosed.cons {t t' : Recorded τ} (h : t.Unclosed t') (inner : τ) {call : TransportCall}
    (hcall : call ≠ .close) : t.Unclosed ⟨inner, call :: t'.calls⟩ := by
  obtain ⟨calls, hcalls, hclose⟩ := h
  refine ⟨call :: calls, ?_, ?_⟩
  · rw [hcalls, List.cons_append]
  · simp only [List.mem_cons, not_or]
    exact ⟨hcall.symm, hclose⟩

/-- A recorded call ends as the call does, with one more entry in the record: the
call and its outcome. By this rule an operation on a recorded transport is opened. -/
@[simp] theorem ends_recording {α : Type} {ok : α → Recorded τ → Prop}
    {bad : IoError → Recorded τ → Prop} (call : Except IoError α → TransportCall)
    (action : EStateM IoError τ α) (t : Recorded τ) :
    Ends (recording call action) t ok bad
      ↔ Ends action t.inner (fun a inner => ok a ⟨inner, call (.ok a) :: t.calls⟩)
          (fun e inner => bad e ⟨inner, call (.error e) :: t.calls⟩) := by
  simp only [Ends, run_recording]
  cases action.run t.inner <;> rfl

/-- A recorded call keeps what one more call of its kind keeps. Nothing is known of
the transport inside, so its outcome may be any. -/
theorem maintains_recording {α : Type} {I : Recorded τ → Prop}
    {call : Except IoError α → TransportCall}
    (h : ∀ t inner outcome, I t → I ⟨inner, call outcome :: t.calls⟩)
    (action : EStateM IoError τ α) : Maintains I (recording call action) := by
  intro t ht
  rw [ends_recording]
  refine (maintains_const True action t.inner trivial).mono ?_ ?_
  · intro a inner _
    exact h t inner (.ok a) ht
  · intro e inner _
    exact h t inner (.error e) ht

/-- A call that delivers nothing leaves the delivered bytes as they are, whatever it
does to the transport underneath. -/
theorem maintains_taken_recording {α : Type} {call : Except IoError α → TransportCall}
    (h : ∀ outcome, delivered? (call outcome) = none) (bs : Bytes) (action : EStateM IoError τ α) :
    Maintains (fun t => t.taken = bs) (recording call action) := by
  refine maintains_recording ?_ action
  intro t inner outcome ht
  rw [taken_cons, h, ht]
  exact List.append_nil bs

/-- What has been delivered stays delivered, whatever the transport is asked: bytes
are only added behind it. -/
theorem maintains_delivered_recording {α : Type} (bs : Bytes)
    (call : Except IoError α → TransportCall) (action : EStateM IoError τ α) :
    Maintains (fun t => bs <+: t.taken) (recording call action) := by
  refine maintains_recording ?_ action
  intro t inner outcome ht
  rw [taken_cons]
  exact ht.trans (List.prefix_append _ _)

variable [Transport τ]

/-- An attempt to connect closes nothing, whether it succeeds or not. -/
theorem maintains_unclosed_connect (t : Recorded τ) (host : String) (port : UInt16) :
    Maintains t.Unclosed (Transport.connect host port) := by
  refine maintains_recording ?_ _
  intro t' inner outcome h
  exact h.cons inner (by simp)

/-- Neither does a write, delivered or not. -/
theorem maintains_unclosed_write (t : Recorded τ) (bs : Bytes) :
    Maintains t.Unclosed (Transport.write bs) := by
  refine maintains_recording ?_ _
  intro t' inner outcome h
  exact h.cons inner (by simp)

/-- Neither do polls and reads, so no read of a packet closes the transport. -/
theorem readsKeep_unclosed (t : Recorded τ) : Channel.ReadsKeep t.Unclosed where
  readByte := by
    refine maintains_recording ?_ _
    intro t' inner outcome h
    exact h.cons inner (by simp)
  available := by
    refine maintains_recording ?_ _
    intro t' inner outcome h
    exact h.cons inner (by simp)

/-- An attempt to connect takes nothing. Whatever the server says at once is still
to be read. -/
theorem maintains_taken_connect (bs : Bytes) (host : String) (port : UInt16) :
    Maintains (fun t : Recorded τ => t.taken = bs) (Transport.connect host port) :=
  maintains_taken_recording (fun _ => rfl) bs _

/-- A write takes nothing, so what is sent and what is received are told apart. -/
theorem maintains_taken_write (bs sent : Bytes) :
    Maintains (fun t : Recorded τ => t.taken = bs) (Transport.write sent) :=
  maintains_taken_recording (fun _ => rfl) bs _

/-- A poll takes nothing, whatever it announces. It is the read behind it that does. -/
theorem maintains_taken_available (bs : Bytes) :
    Maintains (fun t : Recorded τ => t.taken = bs) Transport.available :=
  maintains_taken_recording (fun _ => rfl) bs _

/-- Closing takes nothing either, although what is still on its way may be lost by
it. -/
theorem taken_close (t : Recorded τ) : (Transport.close t).taken = t.taken := by
  have hcall := taken_cons t (Transport.close t.inner) .close
  exact hcall.trans (List.append_nil _)

/-- A byte that is read is one more byte delivered; a failed read delivers none. All
bytes that are taken are taken by this call. -/
theorem ends_readByte_taken (t : Recorded τ) :
    Ends Transport.readByte t (fun b t' => t'.taken = t.taken ++ [b])
      (fun _ t' => t'.taken = t.taken) := by
  show Ends (recording .readByte Transport.readByte) t _ _
  rw [ends_recording]
  apply (maintains_const True _ t.inner trivial).mono
  · intro b inner _
    exact taken_cons t inner _
  · intro e inner _
    exact (taken_cons t inner _).trans (List.append_nil _)

end Recorded

namespace Channel

variable {τ : Type} [Transport τ]

/-- The bytes delivered since an earlier time are an account of a read. Of a failure
nothing is said here: it is only asked what a packet that came is made of. -/
theorem account_taken (attempts : Nat) (start : Bytes) :
    Account attempts (fun bs (t : Recorded τ) => t.taken = start ++ bs) (fun _ _ _ => True) where
  await {bs t} ht := by
    have hpolls := Recorded.maintains_taken_available (τ := τ) (start ++ bs)
    exact (maintains_await hpolls attempts t ht).mono (fun _ _ h => h) (fun _ _ _ => trivial)
  takeByte {bs t} ht := by
    rw [takeByte, ends_adaptExcept]
    refine (Recorded.ends_readByte_taken t).mono ?_ (fun _ _ _ => trivial)
    intro b t' ht'
    rw [ht', ht, List.append_assoc]

/-- A packet that was received is framed in the bytes delivered meanwhile, and has
the number that was due. No byte besides the frame has been taken for it. -/
theorem ends_receive_taken (c : Channel (Recorded τ)) :
    Ends receive c
      (fun p c' => c'.transport.taken = c.transport.taken ++ p.frame ∧ p.sequence = c.sequence
        ∧ c'.sequence = c.sequence + 1) (fun _ _ => True) := by
  have haccount := account_taken (τ := τ) c.readAttempts c.transport.taken
  refine (haccount.ends_receive (List.append_nil _).symm).mono ?_ (fun _ _ _ => trivial)
  intro p c' hp
  obtain ⟨htaken, hsequence, -, hnext⟩ := hp
  exact ⟨htaken, hsequence, hnext⟩

end Channel

end SqlWire
