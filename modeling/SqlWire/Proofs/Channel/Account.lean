import SqlWire.Channel
import SqlWire.Proofs.Ends
import SqlWire.Proofs.Packet.Front

/-!
# What a read takes from the transport

A read of a packet is a loop of waits and of single bytes, once for the header and
once for the payload. `Rounds` says what the two steps of a round do to some record
of the bytes delivered so far: `holds bs t` that these are `bs` at the transport
`t`, `ready bs t` the same where there is a byte to take, and `fails e bs t` that a
step failed there with `e`. Often a wait leaves the record alone, and then there is
only `holds` (`Account`).

The induction over the loop is done once, for any record
(`Rounds.ends_readExactly`), and `Rounds.ends_receive` is what a whole packet comes
to: the record grows by the frame of the packet that is returned, or by bytes that
are no whole packet of the number that was due. Where it fails, `Interrupted` also
tells which number is due next.
-/

set_option autoImplicit false

namespace SqlWire.Channel

open SqlWire.Action

variable {τ : Type} [Transport τ]

/-- A record of the bytes that a transport has delivered, for reads with a poll
budget. It says what the two steps of a round do to the record, and nothing about
the loop they belong to: whoever wants to know something about a read of a packet
proves these two fields and has the loop for nothing. -/
structure Rounds (attempts : Nat) (holds ready : Bytes → τ → Prop)
    (fails : Error → Bytes → τ → Prop) : Prop where
  replenish : ∀ (credit : Nat) {bs : Bytes} {t : τ}, holds bs t →
    Ends (replenish attempts credit) t (fun _ t' => ready bs t') (fun e t' => fails e bs t')
  takeByte : ∀ {bs : Bytes} {t : τ}, ready bs t →
    Ends takeByte t (fun b t' => holds (bs ++ [b]) t') (fun e t' => fails e bs t')

/-- A record that a wait leaves alone. Most records are of this kind, since a wait
takes nothing from the transport; they are spared the distinction of `holds` and
`ready`. -/
structure Account (attempts : Nat) (holds : Bytes → τ → Prop) (fails : Error → Bytes → τ → Prop) :
    Prop where
  /-- A wait delivers nothing. -/
  await : ∀ {bs : Bytes} {t : τ}, holds bs t →
    Ends (await attempts) t (fun _ t' => holds bs t') (fun e t' => fails e bs t')
  takeByte : ∀ {bs : Bytes} {t : τ}, holds bs t →
    Ends takeByte t (fun b t' => holds (bs ++ [b]) t') (fun e t' => fails e bs t')

/-- A record that a wait leaves alone is a record. There is a wait only where the
credit is used up, and where there is none the transport is not asked at all. -/
theorem Account.rounds {attempts : Nat} {holds : Bytes → τ → Prop}
    {fails : Error → Bytes → τ → Prop} (h : Account attempts holds fails) :
    Rounds attempts holds holds fails where
  replenish credit _ _ ht := by
    unfold replenish
    split
    case isTrue hspent => exact h.await ht
    -- There is credit left, so the transport stays as it is.
    case isFalse hcredit => exact ht
  takeByte := h.takeByte

namespace Rounds

variable {attempts : Nat} {holds ready : Bytes → τ → Prop} {fails : Error → Bytes → τ → Prop}

/-- Two records are kept at a time. Each step is taken once and does to both what it
does to either, so that facts about the calls and facts about the transport below
them can be read off one run. -/
theorem and {holds' ready' : Bytes → τ → Prop} {fails' : Error → Bytes → τ → Prop}
    (h : Rounds attempts holds ready fails) (h' : Rounds attempts holds' ready' fails') :
    Rounds attempts (fun bs t => holds bs t ∧ holds' bs t) (fun bs t => ready bs t ∧ ready' bs t)
      (fun e bs t => fails e bs t ∧ fails' e bs t) where
  replenish credit _ _ ht := by
    obtain ⟨hfirst, hsecond⟩ := ht
    exact (h.replenish credit hfirst).and (h'.replenish credit hsecond)
  takeByte ht := by
    obtain ⟨hfirst, hsecond⟩ := ht
    exact (h.takeByte hfirst).and (h'.takeByte hsecond)

/-- A record that has begun before is one of the bytes since. The bytes in front are
fixed and only pass through, so this is how a second packet is accounted for behind
a first. -/
theorem after (h : Rounds attempts holds ready fails) (before : Bytes) :
    Rounds attempts (fun bs t => holds (before ++ bs) t) (fun bs t => ready (before ++ bs) t)
      (fun e bs t => fails e (before ++ bs) t) where
  replenish credit _ _ ht := h.replenish credit ht
  takeByte {bs t} ht := by
    -- The byte is added behind what came before, and so behind the bytes since.
    simpa only [List.append_assoc] using h.takeByte ht

/-- A read of fixed length delivers as many bytes as were asked for, or fewer and
fails. Whatever has been delivered when it stops is on record, also where it fails.
The induction is on the bytes that are missing; the credit, the record and what has
been collected change from round to round. -/
theorem ends_readExactly (h : Rounds attempts holds ready fails) (missing credit : Nat)
    (done : Bytes) {bs : Bytes} {t : τ} (ht : holds bs t) :
    Ends (readExactly attempts missing credit done) t
      (fun out t' => ∃ new, out = done.reverse ++ new ∧ new.length = missing ∧ holds (bs ++ new) t')
      (fun e t' => ∃ new, new.length < missing ∧ fails e (bs ++ new) t') := by
  -- Each round adds one byte to the record and to `done`, which collects them in reverse.
  induction missing generalizing credit done bs t with
  | zero =>
    have hnone : holds (bs ++ []) t := by rwa [List.append_nil]
    exact ⟨[], (List.append_nil _).symm, rfl, hnone⟩
  | succ missing ih =>
    rw [readExactly, ends_bind]
    refine (h.replenish credit ht).mono ?_ ?_
    · intro n t₁ h₁
      rw [ends_bind]
      refine (h.takeByte h₁).mono ?_ ?_
      · intro b t₂ h₂
        refine (ih (n - 1) (b :: done) h₂).mono ?_ ?_
        · intro out t₃ h₃
          obtain ⟨new, hout, hlength, hnew⟩ := h₃
          -- Both the record and the collection have the new byte in front of the bytes
          -- of later rounds.
          rw [List.append_assoc, List.singleton_append] at hnew
          rw [List.reverse_cons, List.append_assoc, List.singleton_append] at hout
          exact ⟨b :: new, hout, by rw [List.length_cons, hlength], hnew⟩
        · intro e t₃ h₃
          obtain ⟨new, hlength, hnew⟩ := h₃
          rw [List.append_assoc, List.singleton_append] at hnew
          exact ⟨b :: new, Nat.succ_lt_succ hlength, hnew⟩
      · intro e t₂ h₂
        have hnone : fails e (bs ++ []) t₂ := by rwa [List.append_nil]
        exact ⟨[], Nat.zero_lt_succ missing, hnone⟩
    · intro e t₁ h₁
      -- The wait or the read of this round failed: nothing has been added to the record
      -- by it.
      have hnone : fails e (bs ++ []) t₁ := by rwa [List.append_nil]
      exact ⟨[], Nat.zero_lt_succ missing, hnone⟩

end Rounds

namespace Account

/-- The error of a header whose number is not the one that is due. It names both
numbers and shows the four bytes of the header. -/
def outOfOrder (expected : UInt8) (head : Bytes) : Error :=
  let got := (Header.ofBytes head).sequence
  .breachIn s!"Packet out of order: expected sequence {expected}, got {got}" head

end Account

/-- How a read of a packet fails when `due` is the number that is due, and which
number is due then. Only a header that is there and has that number uses it up: a
read that stops earlier, or refuses the header, leaves the same number due, and one
that stops in the payload the next. -/
inductive Interrupted (holds : Bytes → τ → Prop) (fails : Error → Bytes → τ → Prop) (due : UInt8) :
    Error → τ → UInt8 → Prop
  | inHeader {e : Error} {bs : Bytes} {t : τ} (stopped : fails e bs t)
      (short : bs.length < Header.size) : Interrupted holds fails due e t due
  | misnumbered {head : Bytes} {t : τ} (delivered : holds head t)
      (whole : head.length = Header.size) (other : (Header.ofBytes head).sequence ≠ due) :
      Interrupted holds fails due (Account.outOfOrder due head) t due
  | inPayload {e : Error} {bs : Bytes} {t : τ} (stopped : fails e bs t)
      (whole : Header.size ≤ bs.length) (sequence : (Header.ofBytes bs).sequence = due)
      (short : bs.length < Header.size + (Header.ofBytes bs).length) :
      Interrupted holds fails due e t (due + 1)

/-- A read of a packet delivers the frame of the packet that it returns, which has
the number that was due, or it is interrupted. The record is that of the whole
frame, header and payload together, and the payload has as many bytes as three
digits can say. -/
theorem Rounds.ends_receive {holds ready : Bytes → τ → Prop} {fails : Error → Bytes → τ → Prop}
    {c : Channel τ} (h : Rounds c.readAttempts holds ready fails) (hc : holds [] c.transport) :
    Ends receive c
      (fun p c' => holds p.frame c'.transport ∧ p.sequence = c.sequence
        ∧ p.payload.length < 0x1000000 ∧ c'.sequence = c.sequence + 1)
      (fun e c' => Interrupted holds fails c.sequence e c'.transport c'.sequence) := by
  simp only [receive, receiveHeader, onTransport, note, ends_bind, ends_get, ends_focus,
    ends_ensure, ends_modify, ends_pure]
  refine (h.ends_readExactly Header.size 0 [] hc).mono ?_ ?_
  · intro head t₁ h₁
    obtain ⟨head, rfl, hlength, h₁⟩ := h₁
    rw [List.nil_append] at h₁
    split
    case isTrue hsequence =>
      refine (h.ends_readExactly _ 0 [] h₁).mono ?_ ?_
      · intro payload t₂ h₂
        obtain ⟨payload, rfl, hpayload, h₂⟩ := h₂
        have hshort : payload.length < 0x1000000 := by
          rw [hpayload]
          exact Header.length_ofBytes_lt head
        -- Header and payload make up the frame, for the header is the encoding of what
        -- it says.
        have hnext : (Header.ofBytes head).sequence + 1 = c.sequence + 1 := by rw [hsequence]
        rw [← Packet.frame_ofBytes hlength hpayload] at h₂
        exact ⟨h₂, hsequence, hshort, hnext⟩
      · intro e t₂ h₂
        obtain ⟨new, hnew, h₂⟩ := h₂
        have hheader := Header.ofBytes_append hlength new
        -- What has been delivered begins with the header, so the header says how much
        -- is lacking.
        have hwhole : Header.size ≤ (head ++ new).length := by
          rw [List.length_append, hlength]
          exact Nat.le_add_right _ _
        have hdue : (Header.ofBytes (head ++ new)).sequence = c.sequence := by
          rw [hheader, hsequence]
        have hcut : (head ++ new).length < Header.size + (Header.ofBytes (head ++ new)).length := by
          rw [hheader, List.length_append, hlength]
          omega
        rw [hsequence]
        exact .inPayload h₂ hwhole hdue hcut
    case isFalse hsequence =>
      exact .misnumbered h₁ hlength hsequence
  · intro e t₁ h₁
    obtain ⟨new, hnew, h₁⟩ := h₁
    exact .inHeader h₁ hnew

/-- A read that fails has delivered a part of a packet with the number that was due,
or a header with another number and nothing after it. The two kinds of part, cut in
the header or in the payload, are one case here, since `Packet.Unfinished` covers
both. -/
theorem Account.ends_receive {holds : Bytes → τ → Prop} {fails : Error → Bytes → τ → Prop}
    {c : Channel τ} (h : Account c.readAttempts holds fails) (hc : holds [] c.transport) :
    Ends receive c
      (fun p c' => holds p.frame c'.transport ∧ p.sequence = c.sequence
        ∧ p.payload.length < 0x1000000 ∧ c'.sequence = c.sequence + 1)
      (fun e c' =>
        (∃ bs, fails e bs c'.transport ∧ Packet.Unfinished c.sequence bs)
          ∨ ∃ head, holds head c'.transport ∧ head.length = Header.size
            ∧ (Header.ofBytes head).sequence ≠ c.sequence ∧ e = outOfOrder c.sequence head) := by
  refine (h.rounds.ends_receive hc).mono (fun _ _ hp => hp) ?_
  intro e c' he
  -- Which number is due afterwards is not asked here, so it need not be traced through
  -- the cases.
  generalize c'.sequence = next at he
  cases he with
  | inHeader stopped short => exact .inl ⟨_, stopped, .inl short⟩
  | misnumbered delivered whole other => exact .inr ⟨_, delivered, whole, other, rfl⟩
  | inPayload stopped whole sequence short => exact .inl ⟨_, stopped, .inr ⟨sequence, short⟩⟩

end SqlWire.Channel
