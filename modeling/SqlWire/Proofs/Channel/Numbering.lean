import SqlWire.Proofs.Channel.Deeds
import SqlWire.Transport.Scripted

/-!
# The numbers of packets

A channel counts the packets of an exchange modulo 256, those that it hands to its
transport together with those whose header it accepts. The count moves on in the
middle of sending and of receiving, and both may fail before that point and behind
it. `Deed.Numbered` lists all the ways in which a request may end, with the calls to
the transport and the number that is due then, and `Request.numbered_deed` that
there is no other way. It follows that the number that is due is the count, after
any requests and whatever the transport has answered (`Deeds.numbered`).
-/

set_option autoImplicit false

namespace SqlWire.Channel

open SqlWire.Action Recorded

/-- A buffer that was handed to the transport, delivered or not. A packet uses up
its number by being handed over. -/
def isWrite : TransportCall → Bool
  | .write _ _ => true
  | _ => false

namespace Deed

/-- The deed has used up a number: it has handed a packet to the transport, or the
header of one with the number that was due has been delivered to it. It can be told
from the calls and the number alone. -/
def uses (d : Deed) : Bool :=
  match d.request with
  | .receive =>
    decide (Header.size ≤ (delivered d.log).length
      ∧ (Header.ofBytes (delivered d.log)).sequence = d.due)
  | .send _ => d.log.any isWrite
  | .resetSequence => false

/-- How many of the deeds, the latest first, have used up a number since the last
reset. -/
def used (deeds : List Deed) : Nat :=
  (deeds.takeWhile fun d => d.request ≠ .resetSequence).countP uses

/-- How a request ends. Each way says what calls it has made, with what result, and
which number is due then; in all of them but the reset this is the number before or
the one after it. -/
inductive Numbered : Deed → Prop
  | reset (due : UInt8) : Numbered ⟨.resetSequence, due, .ok none, [], 0⟩
  /-- A payload that does not fit one packet. -/
  | refused (due : UInt8) {payload : Bytes} (long : maxPayload ≤ payload.length) (e : Error) :
      Numbered ⟨.send payload, due, .error e, [], due⟩
  /-- Any other payload uses up the number that its packet has, whether it is delivered or not. -/
  | sent (due : UInt8) {payload : Bytes} (fits : payload.length < maxPayload)
      {result : Except Error (Option Packet)} {failure : Option IoError}
      (delivery : result = .ok none ↔ failure = none) :
      Numbered ⟨.send payload, due, result, [.write (Packet.frame ⟨due, payload⟩) failure], due + 1⟩
  /-- The header is not all there. -/
  | inHeader (due : UInt8) {log : List TransportCall} (reading : ∀ call ∈ log, IsReading call)
      (short : (delivered log).length < Header.size) (e : Error) :
      Numbered ⟨.receive, due, .error e, log, due⟩
  /-- The header has another number than the one that is due. -/
  | misnumbered (due : UInt8) {log : List TransportCall} (reading : ∀ call ∈ log, IsReading call)
      (whole : (delivered log).length = Header.size)
      (other : (Header.ofBytes (delivered log)).sequence ≠ due) :
      Numbered ⟨.receive, due, .error (Account.outOfOrder due (delivered log)), log, due⟩
  /-- The header is accepted, and the payload is not all there. -/
  | inPayload (due : UInt8) {log : List TransportCall} (reading : ∀ call ∈ log, IsReading call)
      (whole : Header.size ≤ (delivered log).length)
      (sequence : (Header.ofBytes (delivered log)).sequence = due)
      (short : (delivered log).length < Header.size + (Header.ofBytes (delivered log)).length)
      (e : Error) : Numbered ⟨.receive, due, .error e, log, due + 1⟩
  | received (due : UInt8) {log : List TransportCall} (reading : ∀ call ∈ log, IsReading call)
      {payload : Bytes} (fits : payload.length < 0x1000000)
      (packet : delivered log = Packet.frame ⟨due, payload⟩) :
      Numbered ⟨.receive, due, .ok (some ⟨due, payload⟩), log, due + 1⟩

/-- A number that is used up is followed by the next one, and one that is not stays
due. This reads the count off one deed, whichever way it ended. -/
theorem Numbered.next_eq {d : Deed} (h : d.Numbered) (hreset : d.request ≠ .resetSequence) :
    d.next = if d.uses then d.due + 1 else d.due := by
  cases h with
  | reset due => exact absurd rfl hreset
  | refused due long e => rfl
  | sent due fits delivery => rfl
  | inHeader due reading short e => simp [uses, Nat.not_le_of_lt short]
  | misnumbered due reading whole other => simp [uses, other]
  | inPayload due reading whole sequence short e => simp [uses, whole, sequence]
  | received due reading fits packet =>
    -- A packet that came whole has the number that was due in its header.
    have hheader := Header.ofBytes_frame_append (p := ⟨due, _⟩) fits []
    rw [List.append_nil] at hheader
    simp [uses, packet, hheader, Packet.length_frame]

/-- After a reset the number zero is due, whatever was due before it. -/
theorem Numbered.next_of_reset {d : Deed} (h : d.Numbered) (hreset : d.request = .resetSequence) :
    d.next = 0 := by
  cases h with
  | reset due => rfl
  -- No other request ends in one of these ways.
  | refused | sent | inHeader | misnumbered | inPayload | received => cases hreset

/-- No number has been used up since a reset that has just been made. -/
theorem used_cons_of_reset {d : Deed} (hreset : d.request = .resetSequence) (deeds : List Deed) :
    used (d :: deeds) = 0 := by
  simp [used, hreset]

/-- Any other deed adds one number to those used up, or none. Failures differ in
which of the two they do. -/
theorem used_cons {d : Deed} (hreset : d.request ≠ .resetSequence) (deeds : List Deed) :
    used (d :: deeds) = used deeds + if d.uses then 1 else 0 := by
  have hcounts : decide (d.request ≠ .resetSequence) = true := decide_eq_true hreset
  simp only [used, List.takeWhile_cons, hcounts, if_true, List.countP_cons]

end Deed

/-! ### One request -/

section

variable {τ : Type}

/-- Nothing but reading has been recorded since the start, and these bytes were
delivered. -/
def HasRead (start : Recorded τ) (bs : Bytes) (t : Recorded τ) : Prop :=
  ∃ log, Since start t log ∧ delivered log = bs ∧ ∀ call ∈ log, IsReading call

/-- One more poll or byte read, whatever it came to. Only a byte that was read adds
to what was delivered. -/
theorem HasRead.concat {start t : Recorded τ} {bs : Bytes} (h : HasRead start bs t) (inner : τ)
    {call : TransportCall} (hcall : IsReading call) :
    HasRead start (bs ++ (delivered? call).toList) ⟨inner, call :: t.calls⟩ := by
  obtain ⟨log, hsince, rfl, hreading⟩ := h
  have hdelivered : delivered (log ++ [call]) = delivered log ++ (delivered? call).toList := by
    rw [delivered_append]
    cases hbyte : delivered? call <;> simp [delivered, hbyte]
  have hmore : ∀ other ∈ log ++ [call], IsReading other := by
    intro other hother
    rcases List.mem_append.mp hother with hother | hother
    · exact hreading other hother
    · rwa [List.mem_singleton.mp hother]
  exact ⟨log ++ [call], hsince.concat inner call, hdelivered, hmore⟩

/-- How a request ends is told by its result, its calls and the two numbers. So the
law is shown where these are known. -/
theorem Deed.Numbered.of_since {c c' : Channel (Recorded τ)} {log : List TransportCall}
    (h : Since c.transport c'.transport log) {request : Request}
    {result : Except Error (Option Packet)}
    (hd : Deed.Numbered ⟨request, c.sequence, result, log, c'.sequence⟩) :
    (Deed.of request c result c').Numbered := by
  rwa [Deed.of_since h]

/-- A read that is interrupted ends in one of three ways. Which of them it is
depends on how much of the packet had been delivered; the number that is due is what
the interruption says. -/
theorem numbered_of_interrupted {c c' : Channel (Recorded τ)} {e : Error} {next : UInt8}
    (h : Interrupted (HasRead c.transport) (fun _ bs t => HasRead c.transport bs t)
      c.sequence e c'.transport next) (hnext : c'.sequence = next) :
    (Deed.of .receive c (.error e) c').Numbered := by
  -- Where the read stopped tells which number is due, and whether its packet was begun.
  cases h with
  | inHeader stopped short =>
    obtain ⟨log, hsince, rfl, hreading⟩ := stopped
    apply Deed.Numbered.of_since hsince
    rw [hnext]
    exact .inHeader c.sequence hreading short e
  | misnumbered delivered whole other =>
    obtain ⟨log, hsince, rfl, hreading⟩ := delivered
    apply Deed.Numbered.of_since hsince
    rw [hnext]
    exact .misnumbered c.sequence hreading whole other
  | inPayload stopped whole sequence short =>
    obtain ⟨log, hsince, rfl, hreading⟩ := stopped
    apply Deed.Numbered.of_since hsince
    rw [hnext]
    exact .inPayload c.sequence hreading whole sequence short e

end

variable {τ : Type} [Transport τ]

/-- What has been read is an account of a read. Nothing is asked of how the
transport answers. -/
theorem account_hasRead (attempts : Nat) (start : Recorded τ) :
    Account attempts (HasRead start) (fun _ bs t => HasRead start bs t) where
  await {bs t} ht := by
    have hpoll : Maintains (HasRead start bs) (Transport.available (τ := Recorded τ)) := by
      refine maintains_recording ?_ _
      intro t inner outcome ht
      rw [← List.append_nil bs]
      exact ht.concat inner (.inl ⟨outcome, rfl⟩)
    exact maintains_await hpoll attempts t ht
  takeByte {bs t} ht := by
    rw [takeByte, ends_adaptExcept]
    show Ends (recording .readByte Transport.readByte) t _ _
    rw [ends_recording]
    refine (maintains_const True _ t.inner trivial).mono ?_ ?_
    · intro b inner _
      exact ht.concat inner (.inr ⟨.ok b, rfl⟩)
    · intro e inner _
      -- A read that failed is on record as well, and has delivered nothing.
      have hnothing : delivered? (.readByte (.error e)) = none := rfl
      have hnone := ht.concat inner (.inr ⟨.error e, rfl⟩)
      rwa [hnothing, Option.toList_none, List.append_nil] at hnone

/-- A payload that fits one packet is handed to the transport with the number that
is due, which has been moved on before the transport answers. Any other is refused. -/
theorem ends_send_since (payload : Bytes) (c : Channel (Recorded τ)) :
    Ends (send payload) c
      (fun _ c' => payload.length < maxPayload ∧ c'.sequence = c.sequence + 1
        ∧ Since c.transport c'.transport [.write (Packet.frame ⟨c.sequence, payload⟩) none])
      (fun _ c' => maxPayload ≤ payload.length ∧ c' = c
        ∨ payload.length < maxPayload ∧ c'.sequence = c.sequence + 1 ∧ ∃ failure,
          Since c.transport c'.transport
            [.write (Packet.frame ⟨c.sequence, payload⟩) (some failure)]) := by
  simp only [send, note, onTransport, ends_bind, ends_get, ends_ensure, ends_modify, ends_focus,
    ends_adaptExcept]
  split
  case isTrue hlength =>
    show Ends (recording _ (Transport.write _)) c.transport _ _
    rw [ends_recording]
    -- Whether the write is answered with a failure makes no difference to the call on
    -- record.
    refine (maintains_const True _ _ trivial).mono ?_ ?_
    · intro _ inner _
      exact ⟨hlength, trivial, rfl⟩
    · intro e inner _
      exact .inr ⟨hlength, trivial, e, rfl⟩
  case isFalse hlength =>
    exact .inl ⟨Nat.le_of_not_lt hlength, trivial⟩

/-- Every request ends in one of the ways. There is one case for each request, and
in each the ends of the action are known from what it does to the record. -/
theorem Request.numbered_deed (request : Request) (c : Channel (Recorded τ)) :
    (request.deed c).Numbered := by
  cases request with
  | receive =>
    apply report_of_ends fun result c' => (Deed.of .receive c result c').Numbered
    have hstart : HasRead c.transport [] c.transport := ⟨[], rfl, rfl, by simp⟩
    refine ((account_hasRead c.readAttempts c.transport).rounds.ends_receive hstart).mono ?_ ?_
    · intro p c' hp
      obtain ⟨⟨log, hsince, hlog, hreading⟩, hsequence, hlength, hnext⟩ := hp
      obtain ⟨sequence, payload⟩ := p
      obtain rfl : sequence = c.sequence := hsequence
      apply Deed.Numbered.of_since hsince
      rw [hnext]
      exact .received c.sequence hreading hlength hlog
    · intro e c' he
      exact numbered_of_interrupted he rfl
  | send payload =>
    apply report_of_ends fun result c' => (Deed.of (.send payload) c result c').Numbered
    refine (ends_send_since payload c).mono ?_ ?_
    · intro _ c' h
      obtain ⟨hlength, hnext, hsince⟩ := h
      apply Deed.Numbered.of_since hsince
      rw [hnext]
      exact .sent c.sequence hlength (by simp)
    · intro e c' h
      -- A payload that is refused reaches neither the transport nor the count.
      obtain ⟨hlength, rfl⟩ | ⟨hlength, hnext, failure, hsince⟩ := h
      · have hsince : Since c'.transport c'.transport [] := rfl
        exact .of_since hsince (.refused c'.sequence hlength e)
      · apply Deed.Numbered.of_since hsince
        rw [hnext]
        exact .sent c.sequence hlength (by simp)
  | resetSequence =>
    have hrun : Ends Channel.resetSequence c
        (fun _ c' => Since c.transport c'.transport [] ∧ c'.sequence = 0) (fun _ _ => False) :=
      ⟨rfl, rfl⟩
    apply report_of_ends fun result c' => (Deed.of .resetSequence c result c').Numbered
    refine hrun.mono ?_ (fun _ _ h => h.elim)
    intro _ c' h
    obtain ⟨hsince, hnext⟩ := h
    apply Deed.Numbered.of_since hsince
    rw [hnext]
    exact .reset c.sequence

/-! ### Requests one after another -/

/-- After any requests, and whatever the transport has answered, the number that is
due is that of the packets since the last reset, modulo 256, that have been handed
to the transport or whose header has been accepted. Each request has ended in one of
the ways: a packet that is returned or handed over has the number that was due, and
the number is used up as soon as the packet is handed over or its header accepted,
and not before. -/
theorem Deeds.numbered {given : UInt32} {c : Channel (Recorded τ)} {deeds : List Deed}
    (h : Deeds given c deeds) :
    c.sequence.toNat = Deed.used deeds % 256 ∧ ∀ d ∈ deeds, d.Numbered := by
  induction h with
  | ofTransport t => exact ⟨rfl, by simp⟩
  | @perform c deeds request _ ih =>
    obtain ⟨hcount, hdeeds⟩ := ih
    have hdeed := request.numbered_deed c
    refine ⟨?_, List.forall_mem_cons.mpr ⟨hdeed, hdeeds⟩⟩
    show (request.deed c).next.toNat = _
    -- A reset ends the stretch of deeds that are counted; any other request prolongs
    -- it.
    by_cases hreset : (request.deed c).request = .resetSequence
    · rw [hdeed.next_of_reset hreset, Deed.used_cons_of_reset hreset]
      rfl
    · rw [hdeed.next_eq hreset, Deed.used_cons hreset]
      show (if (request.deed c).uses then c.sequence + 1 else c.sequence).toNat = _
      split
      · rw [UInt8.toNat_add, hcount]
        exact (Nat.mod_add_mod _ _ _)
      · exact hcount
  | setTransport transport _ ih => exact ih

/-- A packet, a payload that cannot be delivered, and a packet of which one byte is
missing: three numbers are used up. After a reset and one more payload it is one. -/
theorem Deeds.numbered_of_failures :
    let server : Recorded ScriptedTransport := { inner := {
      script := [.data [0, 0, 0, 0], .data [2, 0, 0, 2, 7]]
      writePlan := [some ⟨.brokenPipe, "gone"⟩, none] } }
    let c := Channel.ofTransport server 5
    let received := (Request.receive.perform c).2
    let sent := ((Request.send [1]).perform received).2
    let broken := (Request.receive.perform sent).2
    let fresh := (Request.resetSequence.perform broken).2
    let early := [Request.receive.deed sent, (Request.send [1]).deed received,
      Request.receive.deed c]
    let late := (Request.send [2]).deed fresh :: Request.resetSequence.deed broken :: early
    Deed.used early = 3 ∧ broken.sequence.toNat = 3 % 256
      ∧ Deed.used late = 1 ∧ ((Request.send [2]).perform fresh).2.sequence.toNat = 1 % 256
      ∧ ∀ d ∈ late, d.Numbered := by
  intro server c received sent broken fresh early late
  have hearly : Deeds 5 broken early :=
    (((Deeds.ofTransport server).perform .receive).perform (.send [1])).perform .receive
  have hlate : Deeds 5 ((Request.send [2]).perform fresh).2 late :=
    (hearly.perform .resetSequence).perform (.send [2])
  have hthree : Deed.used early = 3 := by decide +kernel
  have hone : Deed.used late = 1 := by decide +kernel
  obtain ⟨hbroken, -⟩ := Deeds.numbered hearly
  obtain ⟨hlast, hnumbered⟩ := Deeds.numbered hlate
  rw [hthree] at hbroken
  rw [hone] at hlast
  exact ⟨hthree, hbroken, hone, hlast, hnumbered⟩

end SqlWire.Channel
