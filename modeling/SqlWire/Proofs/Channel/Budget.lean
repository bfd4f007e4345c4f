import SqlWire.Proofs.Channel.Backlog
import SqlWire.Proofs.Channel.Numbering

/-!
# What a read of a packet costs

A transport may announce few bytes at a time, more than it has, or none. The polls
of a wait are counted afresh after every byte, so they are bounded by the bytes:
each byte that is delivered costs one call to read it and one wait at the most, and
a read that fails has cost one more of each (`rounds_spent`). A packet costs no more
than its header and its payload (`ends_receive_spent`), and a transport that
announces nothing is polled as often as the budget says and then given up
(`run_receive_of_silent`).
-/

set_option autoImplicit false

namespace SqlWire

open SqlWire.Action

namespace Recorded

/-- The read of a byte, whatever it came to. A read that the transport refused
counts as well. -/
def isRead : TransportCall → Bool
  | .readByte _ => true
  | _ => false

/-- A poll, whatever it came to. One that was answered with an error counts as well. -/
def isPoll : TransportCall → Bool
  | .available _ => true
  | _ => false

/-- How often some calls have read a byte, or tried to. The bytes among them are no
more than these. -/
def reads (log : List TransportCall) : Nat :=
  log.countP isRead

/-- How often they have polled. This is what a poll budget is to bound. -/
def polls (log : List TransportCall) : Nat :=
  log.countP isPoll

variable {τ : Type}

/-- Since the start these bytes have been delivered, for so many reads and so many
polls at the most. The two numbers are bounds rather than counts, so that a step may
add less than it is allowed to. -/
def Spent (start : Recorded τ) (bs : Bytes) (reading polling : Nat) (t : Recorded τ) : Prop :=
  ∃ log, Since start t log ∧ delivered log = bs ∧ reads log ≤ reading ∧ polls log ≤ polling

variable {start t : Recorded τ} {bs : Bytes} {reading polling : Nat}

/-- At the start nothing has been delivered and nothing has been spent. -/
theorem Spent.nil (start : Recorded τ) : Spent start [] 0 0 start :=
  ⟨[], rfl, rfl, Nat.le_refl _, Nat.le_refl _⟩

/-- What keeps to a bound keeps to any larger one. A failed wait is charged as a
whole wait by this. -/
theorem Spent.mono (h : Spent start bs reading polling t) {reading' polling' : Nat}
    (hreading : reading ≤ reading') (hpolling : polling ≤ polling') :
    Spent start bs reading' polling' t := by
  obtain ⟨log, hsince, hlog, hreads, hpolls⟩ := h
  exact ⟨log, hsince, hlog, Nat.le_trans hreads hreading, Nat.le_trans hpolls hpolling⟩

/-- One more poll delivers nothing. It costs a poll, whether it was answered with a
count or an error, and no read. -/
theorem Spent.poll (h : Spent start bs reading polling t) (inner : τ)
    (result : Except IoError Nat) :
    Spent start bs reading (polling + 1) ⟨inner, .available result :: t.calls⟩ := by
  obtain ⟨log, hsince, rfl, hreads, hpolls⟩ := h
  have hdelivered : delivered (log ++ [.available result]) = delivered log := by
    rw [delivered_append]
    exact List.append_nil _
  have hreading : reads (log ++ [.available result]) ≤ reading := by
    rwa [reads, List.countP_append]
  have hpolling : polls (log ++ [.available result]) ≤ polling + 1 := by
    rw [polls, List.countP_append]
    exact Nat.succ_le_succ hpolls
  exact ⟨_, hsince.concat inner _, hdelivered, hreading, hpolling⟩

/-- One more read of a byte delivers it, or fails. It costs a read in either case,
and no poll. -/
theorem Spent.read (h : Spent start bs reading polling t) (inner : τ)
    (result : Except IoError UInt8) :
    Spent start (bs ++ (delivered? (.readByte result)).toList) (reading + 1) polling
      ⟨inner, .readByte result :: t.calls⟩ := by
  obtain ⟨log, hsince, rfl, hreads, hpolls⟩ := h
  have hdelivered : delivered (log ++ [.readByte result])
      = delivered log ++ (delivered? (.readByte result)).toList := by
    rw [delivered_append]
    cases result <;> rfl
  have hreading : reads (log ++ [.readByte result]) ≤ reading + 1 := by
    rw [reads, List.countP_append]
    exact Nat.succ_le_succ hreads
  have hpolling : polls (log ++ [.readByte result]) ≤ polling := by
    rwa [polls, List.countP_append]
  exact ⟨_, hsince.concat inner _, hdelivered, hreading, hpolling⟩

end Recorded

namespace Channel

open Recorded

section

variable {τ : Type} [Transport τ]

/-- A wait costs the polls that it is given at the most. It stops at the first poll
that announces something or fails, so it may cost less; the induction is on the
polls that are left to it. -/
theorem ends_await_spent (attempts : Nat) {start t : Recorded τ} {bs : Bytes}
    {reading polling : Nat} (ht : Spent start bs reading polling t) :
    Ends (await attempts) t (fun _ t' => Spent start bs reading (polling + attempts) t')
      (fun _ t' => Spent start bs reading (polling + attempts) t') := by
  induction attempts generalizing polling t with
  | zero => exact ht
  | succ attempts ih =>
    have hle : polling + 1 ≤ polling + (attempts + 1) := by omega
    rw [await, ends_bind, Channel.poll, ends_adaptExcept]
    show Ends (recording .available Transport.available) t _ _
    rw [ends_recording]
    refine (maintains_const True _ t.inner trivial).mono ?_ ?_
    · intro ready inner _
      have hsum : polling + 1 + attempts = polling + (attempts + 1) := by omega
      -- An announcement of nothing is the one answer after which there is another poll.
      by_cases hready : ready = 0
      · have hrest := ih (ht.poll inner (.ok ready))
        rw [hsum] at hrest
        rwa [if_pos hready]
      · rw [if_neg hready]
        exact (ht.poll inner (.ok ready)).mono (Nat.le_refl _) hle
    · intro e inner _
      exact (ht.poll inner (.error e)).mono (Nat.le_refl _) hle

/-- Each byte costs one read and one wait at the most. Where a byte is to be read,
its wait has been paid for already, which is why `ready` allows for one wait more
than there are bytes. A failure may have cost a read and a wait that have delivered
nothing. -/
theorem rounds_spent (attempts : Nat) (start : Recorded τ) :
    Rounds attempts (fun bs t => Spent start bs bs.length (attempts * bs.length) t)
      (fun bs t => Spent start bs bs.length (attempts * (bs.length + 1)) t)
      (fun _ bs t => Spent start bs (bs.length + 1) (attempts * (bs.length + 1)) t) where
  replenish credit bs t ht := by
    have hle : bs.length ≤ bs.length + 1 := Nat.le_succ _
    unfold replenish
    split
    case isTrue hcredit =>
      have hwait := ends_await_spent attempts ht
      rw [← Nat.mul_succ] at hwait
      refine hwait.mono (fun _ _ h => h) ?_
      intro e t' hfailed
      exact hfailed.mono hle (Nat.le_refl _)
    case isFalse hcredit => exact ht.mono (Nat.le_refl _) (Nat.mul_le_mul_left _ hle)
  takeByte {bs t} ht := by
    rw [takeByte, ends_adaptExcept]
    show Ends (recording .readByte Transport.readByte) t _ _
    rw [ends_recording]
    refine (maintains_const True _ t.inner trivial).mono ?_ ?_
    · intro b inner _
      have hread := ht.read inner (.ok b)
      -- The bounds are said in terms of the bytes, and the byte is now one of them.
      rwa [← List.length_singleton (a := b), ← List.length_append] at hread
    · intro e inner _
      have hnothing : delivered? (.readByte (.error e)) = none := rfl
      have hread := ht.read inner (.error e)
      rwa [hnothing, Option.toList_none, List.append_nil] at hread

end

/-! ### Packets -/

/-- The length of the payload that was to be received: as the header says, where
there was one and it was accepted. Of a header that was cut short or refused no
payload follows. -/
def Deed.announced (d : Deed) : Nat :=
  if d.uses then (Header.ofBytes (delivered d.log)).length else 0

/-- The deed has read no more bytes than a header and a payload have, and each after
one wait at the most. The bound depends on what the server has announced and on
nothing else that it does. -/
structure Deed.WithinBudget (attempts : Nat) (d : Deed) : Prop where
  reads_le : reads d.log ≤ Header.size + d.announced
  polls_le : polls d.log ≤ attempts * (Header.size + d.announced)

section

variable {τ : Type}

/-- What has been spent is within the budget if the bytes are. The hypothesis speaks
of the bytes that were delivered and the conclusion of the calls on record, which
deliver just these. -/
theorem withinBudget_of_spent {c c' : Channel (Recorded τ)} {attempts n : Nat} {bs : Bytes}
    (h : Spent c.transport bs n (attempts * n) c'.transport)
    (hle : n ≤ Header.size + if Header.size ≤ bs.length ∧ (Header.ofBytes bs).sequence = c.sequence
      then (Header.ofBytes bs).length else 0) (result : Except Error (Option Packet)) :
    (Deed.of .receive c result c').WithinBudget attempts := by
  obtain ⟨log, hsince, rfl, hreads, hpolls⟩ := h
  -- Whether the deed uses its header up is decided by the same test on the same bytes.
  have hannounced : n ≤ Header.size
      + Deed.announced ⟨.receive, c.sequence, result, log, c'.sequence⟩ := by
    simpa [Deed.announced, Deed.uses] using hle
  have hproduct : attempts * n ≤ attempts * _ := Nat.mul_le_mul_left attempts hannounced
  rw [Deed.of_since hsince]
  exact ⟨Nat.le_trans hreads hannounced, Nat.le_trans hpolls hproduct⟩

/-- A read that is interrupted costs no more than what was announced. Where it stops
in the header, or at the header, nothing has been announced and the bytes of a
header are the bound. -/
theorem withinBudget_of_interrupted {c c' : Channel (Recorded τ)} {attempts : Nat} {e : Error}
    {next : UInt8}
    (h : Interrupted (fun bs t => Spent c.transport bs bs.length (attempts * bs.length) t)
      (fun _ bs t => Spent c.transport bs (bs.length + 1) (attempts * (bs.length + 1)) t)
      c.sequence e c'.transport next) (result : Except Error (Option Packet)) :
    (Deed.of .receive c result c').WithinBudget attempts := by
  cases h with
  | inHeader stopped short =>
    refine withinBudget_of_spent stopped ?_ result
    exact Nat.le_trans short (Nat.le_add_right _ _)
  | misnumbered delivered whole other =>
    refine withinBudget_of_spent delivered ?_ result
    rw [whole]
    exact Nat.le_add_right _ _
  | inPayload stopped whole sequence short =>
    refine withinBudget_of_spent stopped ?_ result
    -- One byte less than announced has been delivered at the most, and one call more
    -- has been made.
    rw [if_pos ⟨whole, sequence⟩]
    exact short

end

variable {τ : Type} [Transport τ]

/-- Whatever the transport answers, a read of a packet stays within the budget. It
may announce less than it has, or announce and then fail: each of its answers costs
one call. -/
theorem withinBudget_receive (c : Channel (Recorded τ)) :
    (Request.receive.deed c).WithinBudget c.readAttempts := by
  apply Request.report_of_ends fun result c' =>
    (Deed.of .receive c result c').WithinBudget c.readAttempts
  refine ((rounds_spent c.readAttempts c.transport).ends_receive (.nil _)).mono ?_ ?_
  · intro p c' hp
    obtain ⟨hspent, hsequence, hlength, -⟩ := hp
    -- The packet was delivered whole, so the bytes paid for are those of its frame.
    have hheader := Header.ofBytes_frame_append hlength []
    rw [List.append_nil] at hheader
    have hframe : p.frame.length = Header.size + p.payload.length := Packet.length_frame p
    have hwhole : Header.size ≤ p.frame.length := by omega
    refine withinBudget_of_spent hspent (Nat.le_of_eq ?_) (.ok (some p))
    rw [hheader, if_pos ⟨hwhole, hsequence⟩, hframe]
  · intro e c' he
    exact withinBudget_of_interrupted he (.error e)

/-! ### Silence -/

/-- A wait on a transport that announces nothing uses up its polls. `repeated` is
the experiment that the hypothesis is about: so many polls in a row, whose answers
are all empty. -/
theorem ends_await_of_silent {attempts : Nat} {t : Recorded τ}
    (h : (repeated Transport.available attempts t).1 = List.replicate attempts (.ok 0)) :
    Ends (await attempts) t (fun _ _ => False)
      (fun e t' => e = .timeout ∧ Since t t' (List.replicate attempts silence)) := by
  induction attempts generalizing t with
  | zero => exact ⟨rfl, rfl⟩
  | succ attempts ih =>
    have hcall : Ends (Transport.available : EStateM IoError (Recorded τ) Nat) t
        (fun n t' => t'.calls = .available (.ok n) :: t.calls) (fun _ _ => True) := by
      show Ends (recording .available Transport.available) t _ _
      rw [ends_recording]
      exact (maintains_const True _ t.inner trivial).mono (fun _ _ _ => rfl) (fun _ _ h => h)
    rw [repeated, List.replicate_succ] at h
    rw [await, ends_bind, poll, ends_adaptExcept]
    -- The poll of the wait is the first of the experiment; its answer is needed as well
    -- as its record.
    refine ((ends_run Transport.available t).and hcall).mono ?_ ?_
    · intro n t₁ h₁
      obtain ⟨hrun, hcalls⟩ := h₁
      rw [hrun, List.cons.injEq] at h
      obtain ⟨hn, hrest⟩ := h
      obtain rfl : n = 0 := Except.ok.inj hn
      rw [if_pos rfl]
      refine (ih hrest).mono (fun _ _ h => h) ?_
      intro e t' he
      obtain ⟨htimeout, hsince⟩ := he
      refine ⟨htimeout, ?_⟩
      rw [Since, hsince, hcalls, List.replicate_succ, List.reverse_cons, List.append_assoc]
      rfl
    · intro e t₁ h₁
      obtain ⟨hrun, -⟩ := h₁
      rw [hrun, List.cons.injEq] at h
      obtain ⟨hfailed, -⟩ := h
      cases hfailed

/-- A read from such a transport times out, and has done nothing else. The budget is
used up on the first byte of the header, so that no later wait is begun. -/
theorem deed_of_silent {c : Channel (Recorded τ)}
    (h : (repeated Transport.available c.readAttempts c.transport).1
      = List.replicate c.readAttempts (.ok 0)) :
    (Request.receive.deed c).result = .error .timeout
      ∧ (Request.receive.deed c).log = List.replicate c.readAttempts silence := by
  apply Request.report_of_ends fun result c' => (Deed.of .receive c result c').result = .error .timeout
    ∧ (Deed.of .receive c result c').log = List.replicate c.readAttempts silence
  simp only [receive, receiveHeader, onTransport, ends_bind, ends_get, ends_focus]
  -- The first byte of the header is waited for in vain.
  rw [Header.size, readExactly, replenish, if_pos rfl, ends_bind]
  refine (ends_await_of_silent h).mono (fun _ _ h => h.elim) ?_
  intro e t' he
  obtain ⟨rfl, hsince⟩ := he
  have hsince : Since c.transport ({ c with transport := t' } : Channel (Recorded τ)).transport
      (List.replicate c.readAttempts silence) := hsince
  rw [Deed.of_since hsince]
  exact ⟨rfl, rfl⟩

end Channel

end SqlWire
