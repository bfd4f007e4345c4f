import Mathlib.Data.List.Forall2
import SqlWire.Proofs.Channel.Inbox
import SqlWire.Proofs.Channel.Numbering
import SqlWire.Proofs.HexDump

/-!
# The journal of packets

The journal of a channel is the only trace that packets leave. A request makes one
entry at the most: for the packet that it returned, or for the buffer that it handed
to the transport, delivered or not (`Deed.Enters`, `Request.enters_deed`). So, after
any requests and whatever the transport has answered, the entries of either
direction stand for those packets and those buffers, one for one and in order, and
what an entry shows is enough to get the packet back (`Deeds.journal_faithful`).
-/

set_option autoImplicit false

namespace SqlWire

/-- A reader of the event finds the packet in it: its number, its length, and a dump
that reads as its payload. This asks for the details of the event as they are
entered, name by name. -/
def Event.Shows (event : Event) (p : Packet) : Prop :=
  ∃ dump, event.details = [("sequence_id", .number p.sequence.toNat),
      ("len", .number p.payload.length), ("bytes", .text dump)]
    ∧ Bytes.ofHexDump? dump = some p.payload

/-- The event shows the packet that is framed in the buffer. The payload is short
enough for one packet, so the frame tells it. -/
def Event.ShowsFrame (event : Event) (buffer : Bytes) : Prop :=
  ∃ p : Packet, event.Shows p ∧ buffer = p.frame ∧ p.payload.length < maxPayload

/-- What is entered for a packet that has come shows it: the dump of its payload
reads as the payload. -/
theorem Event.shows_received (p : Packet) : (received p.sequence p.payload).Shows p :=
  ⟨_, rfl, Bytes.ofHexDump?_hexDump _⟩

/-- What is entered for a packet that goes out shows it in the same way: number,
length and bytes. -/
theorem Event.shows_sent (p : Packet) : (sent p.sequence p.payload).Shows p :=
  ⟨_, rfl, Bytes.ofHexDump?_hexDump _⟩

namespace Channel

open SqlWire.Action Recorded

/-- The buffer that a call hands over. Only a write hands one over, delivered or
not. -/
def handed? : TransportCall → Option Bytes
  | .write bs _ => some bs
  | _ => none

/-- Reading hands nothing over, so a deed that reads has no buffers. -/
theorem filterMap_handed?_of_isReading {log : List TransportCall}
    (h : ∀ call ∈ log, IsReading call) : log.filterMap handed? = [] := by
  rw [List.filterMap_eq_nil_iff]
  intro call hcall
  rcases h call hcall with ⟨outcome, rfl⟩ | ⟨outcome, rfl⟩
  · rfl
  · rfl

namespace Deed

/-- The packet that was returned, if there was one. A request that failed has
returned none. -/
def returned? (d : Deed) : Option Packet :=
  match d.result with
  | .ok p => p
  | .error _ => none

/-- The buffers that were handed to the transport, first one first, delivered or
not. -/
def buffers (d : Deed) : List Bytes :=
  d.log.filterMap handed?

/-- What a deed enters in the journal: a packet that was returned, a buffer that was
handed over, or nothing where there was neither. No deed does both. -/
inductive Enters (d : Deed) : List Event → Prop
  | nothing (returned : d.returned? = none) (buffers : d.buffers = []) : Enters d []
  | received {p : Packet} (returned : d.returned? = some p) (buffers : d.buffers = []) :
      Enters d [.received p.sequence p.payload]
  | sent {p : Packet} (returned : d.returned? = none) (buffers : d.buffers = [p.frame])
      (fits : p.payload.length < maxPayload) : Enters d [.sent p.sequence p.payload]

/-- The entries of a deed that say that a packet has come show the one that was
returned. Both are at most one, so this is the case of one deed of what the whole
journal is to satisfy. -/
theorem Enters.forall₂_returned {d : Deed} {events : List Event} (h : d.Enters events) :
    List.Forall₂ Event.Shows (events.filter (·.message = "<- packet")) d.returned?.toList := by
  cases h with
  | nothing returned => simp [returned]
  | received returned => simp [returned, Event.shows_received]
  | sent returned => simp [returned]

/-- Those that say that a packet goes out show what was handed over, as a frame.
There are as many of them as there are buffers. -/
theorem Enters.forall₂_buffers {d : Deed} {events : List Event} (h : d.Enters events) :
    List.Forall₂ Event.ShowsFrame (events.filter (·.message = "-> packet")) d.buffers := by
  cases h with
  | nothing _ buffers => simp [buffers]
  | received _ buffers => simp [buffers]
  | @sent p _ buffers fits =>
    have hshows : (Event.sent p.sequence p.payload).ShowsFrame p.frame :=
      ⟨p, Event.shows_sent p, rfl, fits⟩
    simp [buffers, hshows]

/-- There are no other entries, and all of them are of the lowest level. What a
session enters besides is not entered by its channel. -/
theorem Enters.traffic {d : Deed} {events : List Event} (h : d.Enters events) :
    ∀ event ∈ events, event.level = .trace
      ∧ (event.message = "<- packet" ∨ event.message = "-> packet") := by
  cases h with
  | nothing => simp
  | received => simp [Event.level]
  | sent => simp [Event.level]

/-- What a deed enters is told by its result and its calls. So the law is shown
where these are known. -/
theorem Enters.of_since {τ : Type} {c c' : Channel (Recorded τ)} {log : List TransportCall}
    (h : Since c.transport c'.transport log) {request : Request}
    {result : Except Error (Option Packet)} {events : List Event}
    (hd : Enters ⟨request, c.sequence, result, log, c'.sequence⟩ events) :
    (Deed.of request c result c').Enters events := by
  rwa [Deed.of_since h]

end Deed

variable {τ : Type} [Transport τ]

/-- Reading goes on being all that is recorded. The bytes do not matter here, only
that no call is a write. -/
theorem readsKeep_hasRead (start : Recorded τ) : ReadsKeep fun t => ∃ bs, HasRead start bs t where
  readByte := by
    refine maintains_recording ?_ _
    intro t inner outcome ht
    obtain ⟨bs, ht⟩ := ht
    exact ⟨_, ht.concat inner (.inr ⟨outcome, rfl⟩)⟩
  available := by
    refine maintains_recording ?_ _
    intro t inner outcome ht
    obtain ⟨bs, ht⟩ := ht
    exact ⟨_, ht.concat inner (.inl ⟨outcome, rfl⟩)⟩

/-! ### One request -/

/-- A request enters in the journal what its deed tells. The journal and the calls
are known from different lemmas about the same action, so each request is a
conjunction of the two. -/
theorem Request.enters_deed (request : Request) (c : Channel (Recorded τ)) :
    ∃ events, (request.perform c).2.journal = events.reverse ++ c.journal
      ∧ (request.deed c).Enters events := by
  cases request with
  | receive =>
    apply report_of_ends fun result c' => ∃ events, c'.journal = events.reverse ++ c.journal
      ∧ (Deed.of .receive c result c').Enters events
    have hreading := maintains_receive (readsKeep_hasRead c.transport) c ⟨[], [], rfl, rfl, by simp⟩
    refine ((ends_receive_journal c).and hreading).mono ?_ ?_
    · intro p c' h
      obtain ⟨hjournal, _, log, hsince, -, hlog⟩ := h
      have hnone := filterMap_handed?_of_isReading hlog
      exact ⟨[_], hjournal, .of_since hsince (.received rfl hnone)⟩
    · intro e c' h
      obtain ⟨hjournal, _, log, hsince, -, hlog⟩ := h
      have hnone := filterMap_handed?_of_isReading hlog
      exact ⟨[], hjournal, .of_since hsince (.nothing rfl hnone)⟩
  | send payload =>
    apply report_of_ends fun result c' => ∃ events, c'.journal = events.reverse ++ c.journal
      ∧ (Deed.of (.send payload) c result c').Enters events
    refine ((ends_send_journal payload c).and (ends_send_since payload c)).mono ?_ ?_
    · intro _ c' h
      obtain ⟨⟨hlength, hjournal⟩, -, -, hsince⟩ := h
      exact ⟨[_], hjournal, .of_since hsince (.sent (p := ⟨_, _⟩) rfl rfl hlength)⟩
    · intro e c' h
      obtain ⟨⟨-, rfl⟩ | ⟨hlength, hjournal⟩, hcalls⟩ := h
      · have hsince : Since c'.transport c'.transport [] := rfl
        exact ⟨[], rfl, .of_since hsince (.nothing rfl rfl)⟩
      · -- The entry was made, so the payload has been handed over, and the failure came
        -- after that.
        obtain ⟨hlong, -⟩ | ⟨-, -, failure, hsince⟩ := hcalls
        · exact absurd hlength (Nat.not_lt_of_le hlong)
        · exact ⟨[_], hjournal, .of_since hsince (.sent (p := ⟨_, _⟩) rfl rfl hlength)⟩
  | resetSequence =>
    let fresh : Channel (Recorded τ) := { c with sequence := 0 }
    have hsince : Since c.transport fresh.transport [] := rfl
    exact ⟨[], rfl, .of_since hsince (.nothing rfl rfl)⟩

/-- A read that fails enters nothing: one that times out, one that ends early, and
one that meets a header with another number. -/
theorem Request.journal_receive_of_error {c : Channel (Recorded τ)} {e : Error}
    (h : (receive.perform c).1 = .error e) : (receive.perform c).2.journal = c.journal := by
  have hends : ∀ e, (receive.perform c).1 = .error e →
      (receive.perform c).2.journal = c.journal := by
    apply report_of_ends fun result c' => ∀ e, result = .error e → c'.journal = c.journal
    refine (ends_receive_journal c).mono ?_ (fun _ c' hc _ _ => hc)
    intro p c' _ e he
    cases he
  exact hends e h

/-- A payload that does not fit is not handed over, and the channel is as it was:
nothing is entered and no number is used up. -/
theorem Request.send_of_long {payload : Bytes} (h : maxPayload ≤ payload.length)
    (c : Channel (Recorded τ)) :
    (∃ e, ((send payload).perform c).1 = .error e) ∧ ((send payload).perform c).2 = c := by
  apply report_of_ends fun result c' => (∃ e, result = .error e) ∧ c' = c
  refine (ends_send_journal payload c).mono ?_ ?_
  · intro _ c' hc
    obtain ⟨hlength, -⟩ := hc
    exact absurd hlength (Nat.not_lt_of_le h)
  · intro e c' hc
    obtain ⟨-, rfl⟩ | ⟨hlength, -⟩ := hc
    · exact ⟨⟨e, rfl⟩, rfl⟩
    · exact absurd hlength (Nat.not_lt_of_le h)

/-! ### Requests one after another -/

/-- The journal is what the deeds have entered, one after the other. The induction
adds the entries of the latest deed at the end, which the journal has in front. -/
theorem Deeds.entries {given : UInt32} {c : Channel (Recorded τ)} {deeds : List Deed}
    (h : Deeds given c deeds) :
    ∃ entries, List.Forall₂ (fun events d => Deed.Enters d events) entries deeds.reverse
      ∧ c.takeEvents.1 = entries.flatten := by
  induction h with
  | ofTransport t => exact ⟨[], .nil, rfl⟩
  | @perform c deeds request _ ih =>
    obtain ⟨entries, hentries, htaken⟩ := ih
    obtain ⟨events, hjournal, hdeed⟩ := request.enters_deed c
    -- The latest deed stands first in the history and its events last in the journal.
    have hall : List.Forall₂ (fun events d => Deed.Enters d events) (entries ++ [events])
        (request.deed c :: deeds).reverse := by
      rw [List.reverse_cons]
      exact List.rel_append hentries (.cons hdeed .nil)
    refine ⟨entries ++ [events], hall, ?_⟩
    rw [takeEvents, hjournal, List.reverse_append, List.reverse_reverse, List.flatten_append,
      ← htaken, List.flatten_singleton]
    rfl
  | setTransport transport _ ih => exact ih

/-- The journal is a faithful log. After any requests, and whatever the transport
has answered, the entries that say that a packet has come stand for the packets that
were returned, one for one and in order, and those that say that a packet goes out
for the buffers that were handed to the transport, delivered or not. Each shows the
number and the length of its packet and a dump that reads as its payload. There are
no other entries: a read that fails makes none, and neither does a payload that is
refused, which is not handed over. No two payloads have the same dump; it takes
three characters for each byte, less one, and none where there are no bytes. -/
theorem Deeds.journal_faithful {given : UInt32} {c : Channel (Recorded τ)} {deeds : List Deed}
    (h : Deeds given c deeds) :
    List.Forall₂ Event.Shows (c.takeEvents.1.filter (·.message = "<- packet"))
        (deeds.reverse.filterMap Deed.returned?)
      ∧ List.Forall₂ Event.ShowsFrame (c.takeEvents.1.filter (·.message = "-> packet"))
        (deeds.reverse.flatMap Deed.buffers)
      ∧ (∀ event ∈ c.takeEvents.1, event.level = .trace
        ∧ (event.message = "<- packet" ∨ event.message = "-> packet"))
      ∧ (∀ e, (Request.receive.perform c).1 = .error e →
        (Request.receive.perform c).2.journal = c.journal)
      ∧ (∀ payload : Bytes, maxPayload ≤ payload.length →
        (∃ e, ((Request.send payload).perform c).1 = .error e)
          ∧ ((Request.send payload).perform c).2 = c)
      ∧ Function.Injective Bytes.hexDump
      ∧ ∀ bs : Bytes, bs.hexDump.length = 3 * bs.length - 1 := by
  -- Entry by entry the journal belongs to the deeds, and each conjunct is read off
  -- this.
  obtain ⟨entries, hentries, htaken⟩ := h.entries
  refine ⟨?_, ?_, ?_, fun e he => Request.journal_receive_of_error he,
    fun payload hlong => Request.send_of_long hlong c, Bytes.hexDump_injective,
    Bytes.length_hexDump⟩
  · rw [htaken, List.filter_flatten, List.filterMap_eq_flatMap_toList]
    exact List.rel_flatMap hentries fun _ _ hd => hd.forall₂_returned
  · rw [htaken, List.filter_flatten]
    exact List.rel_flatMap hentries fun _ _ hd => hd.forall₂_buffers
  · -- That an entry is traffic does not depend on the deed that made it.
    have hboth := hentries.imp fun events d hd => And.intro hd.traffic hd
    obtain ⟨htraffic, -⟩ := (List.forall₂_and_left _ _).mp hboth
    intro event hevent
    rw [htaken] at hevent
    obtain ⟨events, hevents, hmem⟩ := List.mem_flatten.mp hevent
    exact htraffic events hevents event hmem

/-- A packet without a payload, a payload that cannot be delivered, and a packet of
which one byte is missing: there is an entry for each of the first two. -/
theorem Deeds.journal_faithful_of_failures :
    let server : Recorded ScriptedTransport := { inner := {
      script := [.data [0, 0, 0, 0], .data [2, 0, 0, 2, 7]]
      writePlan := [some ⟨.brokenPipe, "gone"⟩, none] } }
    let c := Channel.ofTransport server 5
    let received := (Request.receive.perform c).2
    let sent := ((Request.send [0x0A, 0]).perform received).2
    let broken := (Request.receive.perform sent).2
    let before := [(Request.send [0x0A, 0]).deed received, Request.receive.deed c]
    let deeds := Request.receive.deed sent :: before
    deeds.reverse.filterMap Deed.returned? = [⟨0, []⟩]
      ∧ List.Forall₂ Event.Shows (broken.takeEvents.1.filter (·.message = "<- packet"))
        (deeds.reverse.filterMap Deed.returned?)
      ∧ deeds.reverse.flatMap Deed.buffers = [Packet.frame ⟨1, [0x0A, 0]⟩]
      ∧ List.Forall₂ Event.ShowsFrame (broken.takeEvents.1.filter (·.message = "-> packet"))
        (deeds.reverse.flatMap Deed.buffers)
      ∧ (Request.receive.perform sent).1.isOk = false ∧ broken.journal = sent.journal
      ∧ ((Request.send (List.replicate maxPayload 0)).perform broken).2 = broken := by
  intro server c received sent broken before deeds
  have hbefore : Deeds 5 sent before :=
    ((Deeds.ofTransport server).perform .receive).perform (.send [0x0A, 0])
  have hdeeds : Deeds 5 broken deeds := hbefore.perform .receive
  obtain ⟨hreturned, hbuffers, -, -, hrefused, -⟩ := Deeds.journal_faithful hdeeds
  have hfails : (Request.receive.perform sent).1.isOk = false := by decide +kernel
  have hkept : broken.journal = sent.journal := by
    cases hresult : (Request.receive.perform sent).1 with
    | ok p =>
      rw [hresult] at hfails
      cases hfails
    | error e => exact (Deeds.journal_faithful hbefore).2.2.2.1 e hresult
  have hlong : maxPayload ≤ (List.replicate maxPayload (0 : UInt8)).length :=
    Nat.le_of_eq List.length_replicate.symm
  exact ⟨by decide +kernel, hreturned, by decide +kernel, hbuffers, hfails, hkept,
    (hrefused _ hlong).2⟩

end Channel

end SqlWire
