import SqlWire.Proofs.Channel.Stream
import SqlWire.Transport.Scripted

/-!
# Packets do not depend on how their bytes arrive

A server's bytes reach a channel in chunks, with polls in between that find nothing.
An `Arrival` is such a silence and the chunk after it, and a schedule is a list of
arrivals; after the last one there is silence for good. As long as no silence is as
long as the poll budget of a wait (`Timely`), only the bytes matter: a channel over
any schedule reads what `Stream.receive` reads off its bytes
(`receives_of_schedule`), so two schedules of the same bytes cannot be told apart by
any number of reads (`receives_eq_of_schedules`).

The invariant is a schedule of the bytes still to come. It loses its silence in a
wait and its chunk byte by byte in the reads that the wait allows.
-/

set_option autoImplicit false

namespace SqlWire

open SqlWire.Action

/-- Some polls without an answer, and the bytes that are there after them. A
schedule of these says when a transport delivers. -/
structure Arrival where
  silence : Nat
  chunk : Bytes
deriving DecidableEq, Repr

namespace Arrival

/-- The arrival as a script says it. A script has no item for a silence of no polls,
so an arrival without one is its chunk alone. -/
def items (a : Arrival) : List ScriptItem :=
  (if a.silence = 0 then [] else [.idle a.silence]) ++ [.data a.chunk]

/-- The script of a schedule: the items of its arrivals, one after the other. After
the last of them a scripted transport is silent for good. -/
def script (schedule : List Arrival) : List ScriptItem :=
  schedule.flatMap items

/-- The bytes that arrive by a schedule, whatever the silences and wherever they are
cut. -/
def bytes (schedule : List Arrival) : Bytes :=
  schedule.flatMap chunk

/-- There are bytes in every chunk, and the silence before each is over within a
wait of so many polls. The first keeps two silences from adding up to one that is
too long. -/
def Timely (attempts : Nat) (schedule : List Arrival) : Prop :=
  ∀ a ∈ schedule, a.chunk ≠ [] ∧ a.silence < attempts

/-- A schedule is a list, so whether it is timely can be computed. -/
instance (attempts : Nat) (schedule : List Arrival) : Decidable (Timely attempts schedule) :=
  inferInstanceAs (Decidable (∀ a ∈ schedule, a.chunk ≠ [] ∧ a.silence < attempts))

end Arrival

namespace ScriptItem

/-- The bytes that an item delivers. Only data does; a silence delivers none, and
neither does anything else that a script may say. -/
def bytes : ScriptItem → Bytes
  | data bs => bs
  | _ => []

end ScriptItem

namespace ScriptedTransport

/-- The bytes that the script still delivers, whatever comes between them. -/
def unread (t : ScriptedTransport) : Bytes :=
  t.script.flatMap ScriptItem.bytes

/-- The transport follows a timely schedule of the given bytes. Where some of them
are announced, the chunk that they belong to has arrived: no silence stands before
it any more. -/
def Scheduled (attempts : Nat) (t : ScriptedTransport) (bs : Bytes) (announced : Nat) : Prop :=
  ∃ schedule, t.script = Arrival.script schedule ∧ Arrival.bytes schedule = bs
    ∧ Arrival.Timely attempts schedule
    ∧ (announced = 0 ∨ ∃ chunk rest, schedule = ⟨0, chunk⟩ :: rest ∧ announced ≤ chunk.length)

/-- What the script of a schedule delivers is what arrives by the schedule. The
items of silences add nothing to it, whether they are there or not. -/
theorem unread_of_script {t : ScriptedTransport} {schedule : List Arrival}
    (h : t.script = Arrival.script schedule) : t.unread = Arrival.bytes schedule := by
  rw [unread, h, Arrival.script, Arrival.bytes, List.flatMap_assoc]
  congr 1
  funext a
  unfold Arrival.items
  -- With or without an item of silence in front, the chunk is what is delivered.
  split <;> simp [ScriptItem.bytes]

/-- A silence that is over within the polls of a wait is passed over by the wait.
The wait announces the whole chunk behind it, and the script begins with that chunk
then. -/
theorem ends_await_silence {silence attempts : Nat} (h : silence < attempts) {chunk : Bytes}
    (hchunk : chunk ≠ []) {rest : List ScriptItem} {t : ScriptedTransport}
    (ht : t.script = Arrival.items ⟨silence, chunk⟩ ++ rest) :
    Ends (Channel.await attempts) t
      (fun n t' => n = chunk.length ∧ t'.script = .data chunk :: rest) (fun _ _ => False) := by
  -- Each poll takes one off the silence and one off the attempts, so the latter stay ahead.
  induction silence generalizing attempts t with
  | zero =>
    obtain ⟨attempts, rfl⟩ := Nat.exists_eq_succ_of_ne_zero (Nat.ne_of_gt h)
    have hscript : t.script = .data chunk :: rest := ht
    simp only [Channel.await, Channel.poll, ends_bind, ends_adaptExcept]
    show Ends ScriptedTransport.available t _ _
    simp only [available, ends_bind, ends_modify, ends_get, hscript, ends_pure,
      List.length_eq_zero_iff, hchunk, if_false]
    exact ⟨trivial, trivial⟩
  | succ silence ih =>
    obtain ⟨attempts, rfl⟩ := Nat.exists_eq_succ_of_ne_zero (Nat.ne_of_gt (Nat.zero_lt_of_lt h))
    have hscript : t.script = .idle (silence + 1) :: .data chunk :: rest := ht
    simp only [Channel.await, Channel.poll, ends_bind, ends_adaptExcept]
    show Ends ScriptedTransport.available t _ _
    simp only [available, ends_bind, ends_modify, ends_get, hscript, ends_pure, ends_set, if_true]
    refine ih (Nat.lt_of_succ_lt_succ h) ?_
    -- The script drops the item with the last poll of a silence; a silence of none has no item.
    by_cases hlast : silence = 0
    · simp [hlast, Arrival.items]
    · have hmore : ¬ silence + 1 ≤ 1 := by omega
      simp [hlast, hmore, Arrival.items]

/-- A script that has come to its end answers no poll, however often it is asked.
The wait gives up, and the script is at its end still. -/
theorem ends_await_end (attempts : Nat) {t : ScriptedTransport} (ht : t.script = []) :
    Ends (Channel.await attempts) t (fun _ _ => False)
      (fun e t' => e = .timeout ∧ t'.script = []) := by
  induction attempts generalizing t with
  | zero => exact ⟨rfl, ht⟩
  | succ attempts ih =>
    simp only [Channel.await, Channel.poll, ends_bind, ends_adaptExcept]
    show Ends ScriptedTransport.available t _ _
    simp only [available, ends_bind, ends_modify, ends_get, ht, ends_pure, if_true]
    exact ih rfl

/-- A timely schedule delivers its bytes. A wait takes the silence off its first
arrival, a read of a byte takes a byte off its chunk, and the rest of the schedule
is left alone by both. -/
theorem delivery_scheduled (attempts : Nat) : Channel.Delivery attempts (Scheduled attempts) where
  announced_le := by
    rintro t bs n ⟨schedule, -, rfl, -, rfl | ⟨chunk, rest, rfl, hn⟩⟩
    · exact Nat.zero_le _
    · rw [Arrival.bytes, List.flatMap_cons, List.length_append]
      exact Nat.le_add_right_of_le hn
  await := by
    rintro t bs ⟨schedule, hscript, rfl, htimely, -⟩
    -- Only a schedule without arrivals makes a wait give up, for every silence in one
    -- is short enough.
    cases schedule with
    | nil =>
      refine (ends_await_end attempts hscript).mono (fun _ _ h => h.elim) ?_
      intro e t' h
      obtain ⟨htimeout, hscript'⟩ := h
      exact ⟨htimeout, rfl, [], hscript', rfl, htimely, .inl rfl⟩
    | cons a rest =>
      obtain ⟨hchunk, hsilence⟩ := htimely a List.mem_cons_self
      refine (ends_await_silence hsilence hchunk hscript).mono ?_ (fun _ _ h => h.elim)
      intro n t' h
      obtain ⟨rfl, hscript'⟩ := h
      have hsome : a.chunk.length ≠ 0 := mt List.length_eq_zero_iff.mp hchunk
      have harrived : Arrival.Timely attempts (⟨0, a.chunk⟩ :: rest) := by
        intro a' ha'
        rcases List.mem_cons.mp ha' with rfl | ha'
        · exact ⟨hchunk, Nat.zero_lt_of_lt hsilence⟩
        · exact htimely a' (List.mem_cons_of_mem _ ha')
      exact ⟨hsome, ⟨0, a.chunk⟩ :: rest, hscript', rfl, harrived,
        .inr ⟨a.chunk, rest, rfl, Nat.le_refl _⟩⟩
  readByte := by
    rintro t bs n ⟨schedule, hscript, rfl, htimely, hn | ⟨chunk, rest, rfl, hn⟩⟩
    · cases hn
    · show Ends ScriptedTransport.readByte t _ _
      have hdata : t.script = .data chunk :: Arrival.script rest := hscript
      have hrest : Arrival.Timely attempts rest := by
        intro a ha
        exact htimely a (List.mem_cons_of_mem _ ha)
      -- A chunk that has been read to its end leaves the script, for it may not become empty.
      cases chunk with
      | nil => exact absurd hn (Nat.not_succ_le_zero n)
      | cons b more =>
        cases more with
        | nil =>
          obtain rfl : n = 0 := by simpa using hn
          simp only [ScriptedTransport.readByte, ends_bind, ends_get, hdata]
          exact ⟨_, rfl, rest, rfl, rfl, hrest, .inl rfl⟩
        | cons b' more =>
          have hattempts : 0 < attempts := (htimely _ List.mem_cons_self).2
          simp only [ScriptedTransport.readByte, ends_bind, ends_get, hdata]
          -- The chunk has arrived, so what is left of it is an arrival without silence.
          have hmore : Arrival.Timely attempts (⟨0, b' :: more⟩ :: rest) := by
            intro a ha
            rcases List.mem_cons.mp ha with rfl | ha
            · exact ⟨List.cons_ne_nil _ _, hattempts⟩
            · exact hrest a ha
          exact ⟨_, rfl, ⟨0, b' :: more⟩ :: rest, rfl, rfl, hmore,
            .inr ⟨_, _, rfl, Nat.le_of_succ_le_succ hn⟩⟩
  forget := by
    rintro t bs n ⟨schedule, hscript, hbytes, htimely, -⟩
    exact ⟨schedule, hscript, hbytes, htimely, .inl rfl⟩

end ScriptedTransport

namespace Channel

open ScriptedTransport

/-- Over a timely schedule, reading again and again comes to what it comes to on the
bytes alone. No read of the model waits, so the schedule enters into it by its bytes
and in no other way. -/
theorem receives_of_schedule {attempts : Nat} {schedule : List Arrival}
    (htimely : Arrival.Timely attempts schedule) {c : Channel ScriptedTransport}
    (hscript : c.transport.script = Arrival.script schedule) (hattempts : c.readAttempts = attempts)
    (k : Nat) :
    let results := repeated receive k c
    let model := repeated Stream.receive k ⟨c.sequence, Arrival.bytes schedule⟩
    results.1 = model.1 ∧ results.2.sequence = model.2.sequence
      ∧ results.2.transport.unread = model.2.unread := by
  have hfollows : c.Follows attempts (Scheduled attempts) ⟨c.sequence, Arrival.bytes schedule⟩ :=
    ⟨⟨schedule, hscript, rfl, htimely, .inl rfl⟩, rfl, hattempts⟩
  obtain ⟨hresults, hlast⟩ :=
    (delivery_scheduled attempts).simulates_receive.repeated k hfollows
  -- What is unread is what some later schedule still has in it.
  obtain ⟨later, hscript', hbytes, -⟩ := hlast.unread
  exact ⟨hresults, hlast.sequence, (unread_of_script hscript').trans hbytes⟩

/-- Two channels that expect the same number and have the same poll budget read the
same off two timely schedules of the same bytes, however often they read: the same
packets and the same errors in the same order, with the same number due and the same
bytes unread at the end. What they read is what the bytes alone determine. -/
theorem receives_eq_of_schedules (attempts : Nat) (first second : List Arrival)
    (hfirst : Arrival.Timely attempts first) (hsecond : Arrival.Timely attempts second)
    (hbytes : Arrival.bytes first = Arrival.bytes second) (c d : Channel ScriptedTransport)
    (hc : c.transport.script = Arrival.script first)
    (hd : d.transport.script = Arrival.script second)
    (hcattempts : c.readAttempts = attempts) (hdattempts : d.readAttempts = attempts)
    (hsequence : c.sequence = d.sequence) (k : Nat) :
    (repeated receive k c).1 = (repeated receive k d).1
      ∧ (repeated receive k c).2.sequence = (repeated receive k d).2.sequence
      ∧ (repeated receive k c).2.transport.unread = (repeated receive k d).2.transport.unread
      ∧ (repeated receive k c).1
        = (repeated Stream.receive k ⟨c.sequence, Arrival.bytes first⟩).1 := by
  obtain ⟨hresults, hnumber, hunread⟩ := receives_of_schedule hfirst hc hcattempts k
  obtain ⟨hresults', hnumber', hunread'⟩ := receives_of_schedule hsecond hd hdattempts k
  rw [← hbytes, ← hsequence] at hresults' hnumber' hunread'
  exact ⟨hresults.trans hresults'.symm, hnumber.trans hnumber'.symm, hunread.trans hunread'.symm,
    hresults⟩

/-- A packet and the beginning of another one, cut inside the first header and the
first payload with pauses in between, and all at once: both give the packet and then
run out of time. -/
theorem receives_eq_of_pauses :
    let cut : List Arrival :=
      [⟨2, [3, 0]⟩, ⟨1, [0, 7, 10]⟩, ⟨2, [20, 30, 2, 0, 0, 8]⟩, ⟨0, [40]⟩]
    let whole : List Arrival := [⟨0, [3, 0, 0, 7, 10, 20, 30, 2, 0, 0, 8, 40]⟩]
    let channel (schedule : List Arrival) : Channel ScriptedTransport :=
      { transport := { script := Arrival.script schedule }, sequence := 7, readAttempts := 3 }
    (repeated receive 3 (channel cut)).1 = (repeated receive 3 (channel whole)).1
      ∧ (repeated receive 3 (channel cut)).1
        = [.ok ⟨7, [10, 20, 30]⟩, .error .timeout, .error .timeout] := by
  intro cut whole channel
  obtain ⟨hresults, -, -, hmodel⟩ :=
    receives_eq_of_schedules 3 cut whole (by decide) (by decide) rfl (channel cut) (channel whole)
      rfl rfl rfl rfl rfl 3
  have hstream : (repeated Stream.receive 3 ⟨7, Arrival.bytes cut⟩).1
      = [.ok ⟨7, [10, 20, 30]⟩, .error .timeout, .error .timeout] := rfl
  exact ⟨hresults, hmodel.trans hstream⟩

end Channel

end SqlWire
