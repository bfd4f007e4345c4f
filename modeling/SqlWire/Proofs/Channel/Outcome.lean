import SqlWire.Proofs.Channel.Account
import SqlWire.Proofs.Transport.Recorded

/-!
# What a read of a packet comes to

A read polls its transport and takes bytes from it, one call after another, and a
transport may answer each call as it likes: announce bytes that it does not have,
deliver some and fail, fall silent in the middle. `ends_receive_outcome` tells from
these answers alone how the read ends. There are five ways, each with its own
condition on the calls (`Outcome`), and no sixth.

The conditions are about three things that a record of the calls shows: the bytes
delivered, the failures reported, and whether a wait used up its polls, which is a
stretch of that many polls in a row that found nothing. `Ending` says the latter two
of a record, and `account_delivered` that a read keeps them in view from call to
call.
-/

set_option autoImplicit false

namespace SqlWire

open SqlWire.Action

namespace Recorded

variable {τ : Type}

/-- The calls made to the transport from the earlier time to the later, first one
first. The record itself has the latest call first. -/
def Since (earlier later : Recorded τ) (log : List TransportCall) : Prop :=
  later.calls = log.reverse ++ earlier.calls

/-- The bytes that some calls delivered. A poll delivers none, and neither does a
read that fails. -/
def delivered (log : List TransportCall) : Bytes :=
  log.filterMap delivered?

/-- A poll that found nothing. A stretch of these as long as the budget ends a wait. -/
def silence : TransportCall :=
  .available (.ok 0)

/-- One more call. It is the latest on record and the last of those since. -/
theorem Since.concat {earlier later : Recorded τ} {log : List TransportCall}
    (h : Since earlier later log) (inner : τ) (call : TransportCall) :
    Since earlier ⟨inner, call :: later.calls⟩ (log ++ [call]) := by
  show call :: later.calls = (log ++ [call]).reverse ++ earlier.calls
  rw [h, List.reverse_append, List.reverse_singleton, List.singleton_append, List.cons_append]

/-- What some calls delivered and then some more is what all of them did, in this
order. -/
theorem delivered_append (log more : List TransportCall) :
    delivered (log ++ more) = delivered log ++ delivered more :=
  List.filterMap_append

/-- Polls that find nothing deliver nothing, however many. -/
theorem delivered_replicate_silence (n : Nat) : delivered (List.replicate n silence) = [] := by
  rw [delivered, List.filterMap_replicate_of_none rfl]

end Recorded

namespace Channel

open Recorded

/-! ### Stretches of silence -/

variable {log : List TransportCall} {attempts : Nat}

/-- A call that is no silence does not end a stretch of it. So such a call neither
completes a stretch of the length of a wait nor breaks one that is on record
already. -/
theorem silence_infix_concat (hattempts : 0 < attempts) {call : TransportCall}
    (hcall : call ≠ silence) :
    List.replicate attempts silence <:+: log ++ [call]
      ↔ List.replicate attempts silence <:+: log := by
  rw [List.infix_concat_iff]
  constructor
  · rintro (⟨front, hfront⟩ | h)
    · -- A stretch that ends here would have this call as its last.
      have hlast : (front ++ List.replicate attempts silence).getLast? = some silence := by
        rw [List.getLast?_append, List.getLast?_replicate, if_neg (Nat.ne_of_gt hattempts),
          Option.some_or]
      rw [hfront, List.getLast?_concat, Option.some.injEq] at hlast
      exact absurd hlast hcall
    · exact h
  · exact .inr

/-- A wait that has not used up its polls completes no stretch of that length. The
last call before the wait was answered, so the stretch cannot have begun there; the
induction is on the polls of the wait. -/
theorem not_silence_infix_append (hlog : ¬ List.replicate attempts silence <:+: log)
    (hlast : log.getLast? ≠ some silence) {polls : Nat} (hpolls : polls < attempts) :
    ¬ List.replicate attempts silence <:+: log ++ List.replicate polls silence := by
  induction polls with
  | zero => simpa using hlog
  | succ polls ih =>
    rw [List.replicate_succ', ← List.append_assoc, List.infix_concat_iff]
    rintro (⟨front, hfront⟩ | h)
    · -- The stretch is longer than the polls of this wait, so it would begin before them.
      have hsplit : List.replicate attempts silence
          = List.replicate (attempts - (polls + 1)) silence
            ++ List.replicate (polls + 1) silence := by
        rw [List.replicate_append_replicate]
        congr 1
        omega
      rw [hsplit, ← List.append_assoc, List.append_assoc log, ← List.replicate_succ'] at hfront
      have hlog' := List.append_cancel_right hfront
      have hpos : attempts - (polls + 1) ≠ 0 := by omega
      apply hlast
      rw [← hlog', List.getLast?_append, List.getLast?_replicate, if_neg hpos, Option.some_or]
    · exact ih (Nat.lt_of_succ_lt hpolls) h

/-! ### Records of a read -/

/-- A poll or the read of a byte, whatever it came to. Waiting for a packet and
reading it consists of these. -/
def IsReading (call : TransportCall) : Prop :=
  (∃ r, call = .available r) ∨ ∃ r, call = .readByte r

/-- What a record of nothing but reading says of failures and of silence. The last
three parameters are what is to be found in it: the failure of a poll, the failure
of a read, and a stretch of silence. -/
structure Ending (attempts : Nat) (log : List TransportCall) (poll read : Option IoError)
    (silent : Prop) : Prop where
  reading : ∀ call ∈ log, IsReading call
  /-- The poll that failed, if one did. -/
  poll_iff : ∀ e, .available (.error e) ∈ log ↔ poll = some e
  /-- The read of a byte that failed, if one did. -/
  read_iff : ∀ e, .readByte (.error e) ∈ log ↔ read = some e
  /-- A wait has used up its polls. -/
  silent_iff : List.replicate attempts silence <:+: log ↔ silent

/-- A read goes well so far, and the last call has been answered. The latter says
that no wait is going on, so that the polls of the next one are counted from here. -/
structure Ongoing (attempts : Nat) (log : List TransportCall) : Prop extends
    Ending attempts log none none False where
  answered : log.getLast? ≠ some silence

/-- Before the first call nothing has gone wrong. There must be a poll to spend, for
no polls at all are a stretch of silence in any record. -/
theorem Ongoing.nil (hattempts : 0 < attempts) : Ongoing attempts [] where
  reading := by simp
  poll_iff e := by simp
  read_iff e := by simp
  silent_iff := by simpa using Nat.ne_of_gt hattempts
  answered := by simp

/-- What further calls say is what the record says from then on, if all has gone
well before. Failures are looked for in the further calls alone; a stretch of
silence may reach across. -/
theorem Ending.append {poll read : Option IoError} {silent : Prop}
    (h : Ending attempts log none none False) {more : List TransportCall}
    (hreading : ∀ call ∈ more, IsReading call)
    (hpoll : ∀ e, .available (.error e) ∈ more ↔ poll = some e)
    (hread : ∀ e, .readByte (.error e) ∈ more ↔ read = some e)
    (hsilent : List.replicate attempts silence <:+: log ++ more ↔ silent) :
    Ending attempts (log ++ more) poll read silent where
  reading call hcall := by
    rcases List.mem_append.mp hcall with hbefore | hmore
    · exact h.reading call hbefore
    · exact hreading call hmore
  poll_iff e := by simp [h.poll_iff, hpoll]
  read_iff e := by simp [h.read_iff, hread]
  silent_iff := hsilent

/-- So many polls of the next wait have found nothing. They are no failures, so only
the stretch that they may complete is left to be told. -/
theorem Ongoing.silent (h : Ongoing attempts log) {polls : Nat} {silent : Prop}
    (hsilent : List.replicate attempts silence <:+: log ++ List.replicate polls silence ↔ silent) :
    Ending attempts (log ++ List.replicate polls silence) none none silent := by
  refine h.toEnding.append ?_ ?_ ?_ hsilent
  · intro call hcall
    exact .inl ⟨_, List.eq_of_mem_replicate hcall⟩
  · intro e
    simp [silence, List.mem_replicate]
  · intro e
    simp [silence, List.mem_replicate]

/-- Some but not all of the polls. The wait goes on, and no stretch is complete. -/
theorem Ongoing.waiting (h : Ongoing attempts log) {polls : Nat} (hpolls : polls < attempts) :
    Ending attempts (log ++ List.replicate polls silence) none none False := by
  have hnone := not_silence_infix_append h.silent_iff.mp h.answered hpolls
  exact h.silent (iff_of_false hnone id)

/-- All of them. The wait is a stretch of the length that it may have, and ends the
read. -/
theorem Ongoing.exhausted (h : Ongoing attempts log) :
    Ending attempts (log ++ List.replicate attempts silence) none none True := by
  have hstretch : List.replicate attempts silence
      <:+: log ++ List.replicate attempts silence := (List.suffix_append _ _).isInfix
  exact h.silent (iff_of_true hstretch trivial)

/-- One more call, which is no silence. It adds the failure that it is, if it is
one. -/
theorem Ending.concat {poll read : Option IoError} (h : Ending attempts log none none False)
    (hattempts : 0 < attempts) {call : TransportCall} (hreading : IsReading call)
    (hcall : call ≠ silence) (hpoll : ∀ e, .available (.error e) = call ↔ poll = some e)
    (hread : ∀ e, .readByte (.error e) = call ↔ read = some e) :
    Ending attempts (log ++ [call]) poll read False := by
  refine h.append ?_ ?_ ?_ ?_
  · rintro other hother
    rwa [List.mem_singleton.mp hother]
  · intro e
    rw [List.mem_singleton, hpoll]
  · intro e
    rw [List.mem_singleton, hread]
  · rw [silence_infix_concat hattempts hcall, h.silent_iff]

/-- One more call that is answered as it should be. This ends a wait or a round, and
the read is ongoing. -/
theorem Ending.answer (h : Ending attempts log none none False) (hattempts : 0 < attempts)
    {call : TransportCall} (hcall : (∃ n, n ≠ 0 ∧ call = .available (.ok n))
      ∨ ∃ b, call = .readByte (.ok b)) : Ongoing attempts (log ++ [call]) := by
  -- A call that answers is no silence, so no stretch ends with it.
  have hsilence : call ≠ silence := by
    rcases hcall with ⟨n, hn, rfl⟩ | ⟨b, rfl⟩
    · simpa [silence] using hn
    · simp [silence]
  have hlast : (log ++ [call]).getLast? ≠ some silence := by
    rw [List.getLast?_concat]
    intro hsome
    exact hsilence (Option.some.inj hsome)
  have hreading : IsReading call := by
    rcases hcall with ⟨n, -, rfl⟩ | ⟨b, rfl⟩
    · exact .inl ⟨_, rfl⟩
    · exact .inr ⟨_, rfl⟩
  refine ⟨h.concat hattempts hreading hsilence ?_ ?_, hlast⟩
  · rcases hcall with ⟨n, -, rfl⟩ | ⟨b, rfl⟩ <;> simp
  · rcases hcall with ⟨n, -, rfl⟩ | ⟨b, rfl⟩ <;> simp

/-- One more poll, which fails. The failure ends the read and is the only one in it. -/
theorem Ending.pollFailed (h : Ending attempts log none none False) (hattempts : 0 < attempts)
    (e : IoError) : Ending attempts (log ++ [.available (.error e)]) (some e) none False :=
  h.concat hattempts (.inl ⟨_, rfl⟩) (by simp [silence]) (by simp [eq_comm]) (by simp)

/-- One more byte is to be read, which fails. It is told apart from a poll that
failed. -/
theorem Ending.readFailed (h : Ending attempts log none none False) (hattempts : 0 < attempts)
    (e : IoError) : Ending attempts (log ++ [.readByte (.error e)]) none (some e) False :=
  h.concat hattempts (.inr ⟨_, rfl⟩) (by simp [silence]) (by simp) (by simp [eq_comm])

/-! ### The waits and reads of a packet -/

/-- A record that ends in the failure of a wait or of a read, and the error that
this is reported as. There is one way for each thing that may go wrong while bytes
are awaited. -/
inductive Breaks (attempts : Nat) : List TransportCall → Error → Prop
  | timeout {log : List TransportCall} (h : Ending attempts log none none True) :
      Breaks attempts log .timeout
  | poll {log : List TransportCall} {e : IoError} (h : Ending attempts log (some e) none False) :
      Breaks attempts log (.disconnected "Failed to poll transport" e)
  | read {log : List TransportCall} {e : IoError} (h : Ending attempts log none (some e) False) :
      Breaks attempts log (readFailure e)

/-- The bytes have been delivered since the start, and nothing has gone wrong. -/
def Delivered {τ : Type} (attempts : Nat) (start : Recorded τ) (bs : Bytes) (t : Recorded τ) :
    Prop :=
  ∃ log, Since start t log ∧ delivered log = bs ∧ Ongoing attempts log

/-- The bytes have been delivered since the start, and then a wait or a read failed.
The error is the one that the read came to. -/
def BrokenOff {τ : Type} (attempts : Nat) (start : Recorded τ) (e : Error) (bs : Bytes)
    (t : Recorded τ) : Prop :=
  ∃ log, Since start t log ∧ delivered log = bs ∧ Breaks attempts log e

section

variable {τ : Type} [Transport τ] {start t : Recorded τ}

/-- A wait polls until it is answered, or its polls are used up, or one fails. The
induction is on the polls that are left; those that are spent are the stretch of
silence at the end of the record. -/
theorem ends_await_delivered (h : Ongoing attempts log) {polls left : Nat}
    (hpolls : polls + left = attempts)
    (ht : Since start t (log ++ List.replicate polls silence)) :
    Ends (await left) t (fun _ t' => Delivered attempts start (delivered log) t')
      (fun e t' => BrokenOff attempts start e (delivered log) t') := by
  have hlog (k : Nat) : delivered (log ++ List.replicate k silence) = delivered log := by
    rw [delivered_append, delivered_replicate_silence, List.append_nil]
  induction left generalizing polls t with
  -- No polls are left, so the stretch is as long as it may be.
  | zero =>
    obtain rfl : polls = attempts := hpolls
    exact ⟨_, ht, hlog polls, .timeout h.exhausted⟩
  | succ left ih =>
    have hattempts : 0 < attempts := by omega
    have hless : polls < attempts := by omega
    have hnext : polls + 1 + left = attempts := by omega
    have hwaiting := h.waiting hless
    rw [await, ends_bind, poll, ends_adaptExcept]
    show Ends (recording .available Transport.available) t _ _
    rw [ends_recording]
    refine (maintains_const True _ t.inner trivial).mono ?_ ?_
    · intro ready inner _
      by_cases hready : ready = 0
      · rw [if_pos hready, hready]
        apply ih hnext
        rw [List.replicate_succ', ← List.append_assoc]
        exact ht.concat inner _
      · rw [if_neg hready]
        have hanswered := hwaiting.answer hattempts (.inl ⟨ready, hready, rfl⟩)
        refine ⟨_, ht.concat inner _, ?_, hanswered⟩
        rw [delivered_append, hlog]
        exact List.append_nil _
    · intro e inner _
      refine ⟨_, ht.concat inner _, ?_, .poll (hwaiting.pollFailed hattempts e)⟩
      rw [delivered_append, hlog]
      exact List.append_nil _

/-- What has been delivered since the start is an account of a read: it is kept
through every wait and every byte, and says of each failure what it was. -/
theorem account_delivered (hattempts : 0 < attempts) (start : Recorded τ) :
    Account attempts (Delivered attempts start) (BrokenOff attempts start) where
  await := by
    rintro bs t ⟨log, ht, rfl, h⟩
    exact ends_await_delivered h (Nat.zero_add attempts) (by simpa using ht)
  takeByte := by
    rintro bs t ⟨log, ht, rfl, h⟩
    rw [takeByte, ends_adaptExcept]
    show Ends (recording .readByte Transport.readByte) t _ _
    rw [ends_recording]
    refine (maintains_const True _ t.inner trivial).mono ?_ ?_
    · -- The byte is one more delivered, and ends the silence before it.
      intro b inner _
      have hanswered := h.toEnding.answer hattempts (.inr ⟨b, rfl⟩)
      exact ⟨_, ht.concat inner _, delivered_append _ _, hanswered⟩
    · intro e inner _
      refine ⟨_, ht.concat inner _, ?_, .read (h.toEnding.readFailed hattempts e)⟩
      rw [delivered_append]
      exact List.append_nil _

end

/-! ### The five outcomes -/

/-- How a read ends, told from the calls that it made: it returns a packet, or it
times out, or it fails with one of three errors. `bs` are the bytes delivered, and
what they announce is read off their first four. -/
structure Outcome {τ : Type} (c : Channel τ) (log : List TransportCall)
    (result : Except Error Packet) : Prop where
  /-- A read does nothing but read. -/
  reading : ∀ call ∈ log, IsReading call
  /-- There is a packet where it was delivered whole and has the number that is due. -/
  ok_iff : (∃ p, result = .ok p)
    ↔ Header.size + (Header.ofBytes (delivered log)).length ≤ (delivered log).length
      ∧ (Header.ofBytes (delivered log)).sequence = c.sequence
  /-- It is what was delivered, and no byte behind it was. -/
  packet : ∀ p, result = .ok p → p.sequence = c.sequence
    ∧ p.payload = (delivered log).drop Header.size
    ∧ (delivered log).length = Header.size + (Header.ofBytes (delivered log)).length
  /-- The read times out where bytes are missing and a wait has used up its polls. No two waits
  follow one another without the read of a byte between them, so the polls are those of one. -/
  timeout_iff : result = .error .timeout
    ↔ Packet.Unfinished c.sequence (delivered log)
      ∧ List.replicate c.readAttempts silence <:+: log
  /-- The error has the header in it where the header has another number. -/
  misnumbered_iff : ∀ raw, (∃ e, result = .error (.protocol e) ∧ e.raw = some raw)
    ↔ Header.size ≤ (delivered log).length
      ∧ (Header.ofBytes (delivered log)).sequence ≠ c.sequence
      ∧ raw = (delivered log).take Header.size
  /-- No byte is read behind such a header. -/
  misnumbered : Header.size ≤ (delivered log).length →
    (Header.ofBytes (delivered log)).sequence ≠ c.sequence →
    (delivered log).length = Header.size
  /-- The protocol is broken where the stream ended. -/
  shortRead_iff : (∃ e, result = .error (.protocol e) ∧ e.raw = none)
    ↔ ∃ e, .readByte (.error e) ∈ log ∧ e.kind = .unexpectedEof
  /-- The connection is lost where a poll failed, or the read of a byte otherwise. -/
  disconnected_iff : ∀ e, (∃ d, result = .error (.connection d) ∧ d.kind = .disconnected
      ∧ d.source = some e)
    ↔ .available (.error e) ∈ log ∨ .readByte (.error e) ∈ log ∧ e.kind ≠ .unexpectedEof
  /-- There is no other way. -/
  exhaustive : (∃ p, result = .ok p) ∨ result = .error .timeout
    ∨ (∃ e, result = .error (.protocol e))
    ∨ ∃ d e, result = .error (.connection d) ∧ d.kind = .disconnected ∧ d.source = some e

section

variable {τ : Type} {c : Channel τ}

/-- A packet that was delivered whole, and nothing went wrong. Every other way of
ending is ruled out by the record: the header is as long as what was delivered, its
number was due, and no call failed. -/
theorem Ongoing.outcome (h : Ongoing c.readAttempts log) {p : Packet}
    (hlog : delivered log = p.frame) (hsequence : p.sequence = c.sequence)
    (hlength : p.payload.length < 0x1000000) : Outcome c log (.ok p) := by
  -- All that the outcomes look at is in the bytes delivered, and these are a frame.
  have hheader : Header.ofBytes (delivered log) = ⟨p.payload.length, p.sequence⟩ := by
    rw [hlog, ← Header.ofBytes_frame_append hlength [], List.append_nil]
  have hwhole : (delivered log).length = Header.size + p.payload.length := by
    rw [hlog, Packet.length_frame]
  have hsize : (Header.encode ⟨p.payload.length, p.sequence⟩).length = Header.size := by
    simp [Header.encode, Header.size]
  have hpayload : p.payload = (delivered log).drop Header.size := by
    rw [hlog, Packet.frame]
    exact (List.drop_left' hsize).symm
  have hdue : (Header.ofBytes (delivered log)).sequence = c.sequence := by
    rw [hheader, hsequence]
  exact {
    reading := h.reading
    ok_iff := by simp [hheader, hwhole, hsequence]
    packet := by
      rintro _ ⟨⟩
      exact ⟨hsequence, hpayload, by rw [hheader, hwhole]⟩
    timeout_iff := by simp [h.silent_iff]
    misnumbered_iff := by simp [hheader, hsequence]
    misnumbered := by
      intro _ hother
      exact absurd hdue hother
    shortRead_iff := by simp [h.read_iff]
    disconnected_iff := by simp [h.poll_iff, h.read_iff]
    exhaustive := .inl ⟨p, rfl⟩ }

/-- A header with another number, and nothing went wrong before. No call failed, so
the error can only be that of the number, and it shows the header as it was
delivered. -/
theorem Ongoing.outcome_misnumbered (h : Ongoing c.readAttempts log)
    (hlength : (delivered log).length = Header.size)
    (hsequence : (Header.ofBytes (delivered log)).sequence ≠ c.sequence) :
    Outcome c log (.error (Account.outOfOrder c.sequence (delivered log))) where
  reading := h.reading
  ok_iff := by simp [hsequence]
  packet _ hp := by cases hp
  timeout_iff := by simp [h.silent_iff, Account.outOfOrder, Error.breachIn]
  misnumbered_iff raw := by
    have htake : (delivered log).take Header.size = delivered log := by
      rw [← hlength, List.take_length]
    simp [Account.outOfOrder, Error.breachIn, hlength, hsequence, htake, eq_comm]
  misnumbered _ _ := hlength
  shortRead_iff := by simp [h.read_iff, Account.outOfOrder, Error.breachIn]
  disconnected_iff := by simp [h.poll_iff, h.read_iff, Account.outOfOrder, Error.breachIn]
  exhaustive := .inr (.inr (.inl ⟨_, rfl⟩))

/-- A failure while bytes were missing: what it is reported as is settled by which
call failed, or by the silence. The hypotheses say this of the one error, and the
rest is what missing bytes exclude. -/
theorem Ending.outcome {poll read : Option IoError} {silent : Prop} {e : Error}
    (h : Ending c.readAttempts log poll read silent)
    (hlog : Packet.Unfinished c.sequence (delivered log))
    (htimeout : e = .timeout ↔ silent) (hraw : ∀ p, e = .protocol p → p.raw = none)
    (hprotocol : (∃ p, e = .protocol p) ↔ ∃ io, read = some io ∧ io.kind = .unexpectedEof)
    (hconnection : ∀ io, (∃ d, e = .connection d ∧ d.kind = .disconnected ∧ d.source = some io)
      ↔ poll = some io ∨ read = some io ∧ io.kind ≠ .unexpectedEof)
    (hall : e = .timeout ∨ (∃ p, e = .protocol p)
      ∨ ∃ d io, e = .connection d ∧ d.kind = .disconnected ∧ d.source = some io) :
    Outcome c log (.error e) := by
  -- Of a header with a number, either the number is due or the header is not all there.
  have hnumber : Header.size ≤ (delivered log).length →
      (Header.ofBytes (delivered log)).sequence = c.sequence := by
    intro hhead
    rcases hlog with hless | ⟨heq, -⟩
    · exact absurd hhead (Nat.not_le_of_lt hless)
    · exact heq
  have hpayload : (delivered log).length
      < Header.size + (Header.ofBytes (delivered log)).length := by
    rcases hlog with hless | ⟨-, hless⟩
    · exact Nat.lt_add_right _ hless
    · exact hless
  exact {
    reading := h.reading
    ok_iff := iff_of_false (by simp) (by omega)
    packet := by simp
    timeout_iff := by simp [h.silent_iff, hlog, htimeout]
    misnumbered_iff := by
      intro raw
      apply iff_of_false
      · rintro ⟨p, hp, hsome⟩
        rw [hraw p (Except.error.inj hp)] at hsome
        cases hsome
      · rintro ⟨hhead, hother, -⟩
        exact hother (hnumber hhead)
    misnumbered := by
      intro hhead hother
      exact absurd (hnumber hhead) hother
    shortRead_iff := by
      simp only [h.read_iff, ← hprotocol, Except.error.injEq]
      constructor
      · rintro ⟨p, hp, -⟩
        exact ⟨p, hp⟩
      · rintro ⟨p, hp⟩
        exact ⟨p, hp, hraw p hp⟩
    disconnected_iff := by simpa [h.poll_iff, h.read_iff] using hconnection
    exhaustive := .inr (by simpa using hall) }

/-- What went wrong while bytes were missing. Each of the three failures excludes
the others, because the record shows only one. -/
theorem Breaks.outcome {e : Error} (h : Breaks c.readAttempts log e)
    (hlog : Packet.Unfinished c.sequence (delivered log)) : Outcome c log (.error e) := by
  cases h with
  | timeout h => exact h.outcome hlog (by simp) (by simp) (by simp) (by simp) (.inl rfl)
  | @poll e h =>
    refine h.outcome hlog ?_ ?_ ?_ ?_ (.inr (.inr ⟨_, e, rfl, rfl, rfl⟩)) <;>
      simp [Error.disconnected]
  | @read e h =>
    -- Reading past the end of the stream is a breach of the protocol; any other failure is not.
    by_cases hkind : e.kind = .unexpectedEof
    · rw [readFailure, if_pos hkind]
      refine h.outcome hlog ?_ ?_ ?_ ?_ (.inr (.inl ⟨_, rfl⟩)) <;> simp [hkind]
    · rw [readFailure, if_neg hkind]
      refine h.outcome hlog ?_ ?_ ?_ ?_ (.inr (.inr ⟨_, e, rfl, rfl, rfl⟩)) <;>
        simp [Error.disconnected, hkind]

end

variable {τ : Type} [Transport τ]

/-- Without any polls to spend, a read makes no call and times out. A channel is
never made so, but nothing in its state excludes it, and the outcomes hold there as
well. -/
theorem outcome_of_no_attempts {c : Channel (Recorded τ)} (hattempts : c.readAttempts = 0) :
    receive.run c = .error .timeout c ∧ Outcome c [] (.error .timeout) := by
  have hending : Ending c.readAttempts [] none none True := by
    constructor <;> simp [hattempts]
  refine ⟨?_, (Breaks.timeout hending).outcome (.inl (by decide))⟩
  obtain ⟨transport, sequence, readAttempts, journal⟩ := c
  obtain rfl : readAttempts = 0 := hattempts
  rfl

/-- Whatever the transport answers, and wherever the channel stands, the calls that
a read makes tell how it ends (`Outcome`). There is a record on success and on
failure alike, so each of the equivalences holds of both. Nothing is assumed of the
transport: it may poll, deliver and fail in any order. -/
theorem ends_receive_outcome (c : Channel (Recorded τ)) :
    Ends receive c
      (fun p c' => ∃ log, Since c.transport c'.transport log ∧ Outcome c log (.ok p))
      (fun e c' => ∃ log, Since c.transport c'.transport log ∧ Outcome c log (.error e)) := by
  -- Without polls every record has a stretch of that length, so this case is not an
  -- ongoing read.
  rcases Nat.eq_zero_or_pos c.readAttempts with hnone | hattempts
  · obtain ⟨hrun, houtcome⟩ := outcome_of_no_attempts hnone
    rw [Ends, hrun]
    exact ⟨[], rfl, houtcome⟩
  · have hstart : Delivered c.readAttempts c.transport [] c.transport :=
      ⟨[], rfl, rfl, .nil hattempts⟩
    refine ((account_delivered hattempts c.transport).ends_receive hstart).mono ?_ ?_
    · intro p c' hp
      obtain ⟨⟨log, hsince, hlog, hongoing⟩, hsequence, hlength, -⟩ := hp
      exact ⟨log, hsince, hongoing.outcome hlog hsequence hlength⟩
    · intro e c' he
      rcases he with ⟨_, ⟨log, hsince, rfl, hbreaks⟩, hunfinished⟩
        | ⟨_, ⟨log, hsince, rfl, hongoing⟩, hlength, hsequence, rfl⟩
      · exact ⟨log, hsince, hbreaks.outcome hunfinished⟩
      · exact ⟨log, hsince, hongoing.outcome_misnumbered hlength hsequence⟩

end Channel

end SqlWire
