import SqlWire.Proofs.Channel.Stream
import SqlWire.Proofs.Session.Exchange
import SqlWire.Proofs.Transport.Memory

/-!
# Content and markers do not overlap

The first byte of a payload has two readings: it may mark an error or an end, or it
may begin a length-coded integer. The two never meet. No integer begins with the
marker of an error, and behind the marker of an end an integer has eight digits,
which makes the payload longer than an end marker is
(`Packet.isContent_of_decode?`). This asks nothing of how narrowly the integer is
written.

A row of one cell at least and a field descriptor begin with a string, and a string
with an integer, so whatever can be read as one of them is neither an error nor an
end marker, and is returned by the step that reads it. The other way round, whatever
looks like an end marker can be read as one. `content_and_markers` says all of this.
-/

set_option autoImplicit false

namespace SqlWire

open SqlWire.Action

/-! ### The first byte -/

/-- What the first byte of an integer that can be read tells, in whichever width it
was written. It is not the marker of an error, and where it is that of an end, eight
digits follow. -/
theorem LengthCoded.eq_cons_of_decode? {bs : Bytes} {x : LengthCoded × Nat}
    (h : decode? bs = some x) :
    ∃ first rest, bs = first :: rest ∧ first ≠ 0xFF ∧ (first = 0xFE → 8 ≤ rest.length) := by
  cases bs with
  | nil => cases h
  | cons first rest =>
    refine ⟨first, rest, rfl, ?_, ?_⟩
    · rintro rfl
      cases h
    · rintro rfl
      -- Fewer than eight digits are no integer.
      refine Nat.le_of_not_lt ?_
      intro hshort
      have hnone : Bytes.splitExactly (width 0xFE - 1) rest = none :=
        Bytes.splitExactly_eq_none_iff.mpr hshort
      rw [decode?, if_neg (by decide), if_neg (by decide), if_neg (by decide), hnone] at h
      cases h

namespace Packet

variable {payload : Bytes}

/-- An integer at the front makes a packet content. A payload that begins as an end
marker does is too long to be one. -/
theorem isContent_of_decode? {x : LengthCoded × Nat} (h : LengthCoded.decode? payload = some x)
    (sequence : UInt8) : IsContent ⟨sequence, payload⟩ := by
  obtain ⟨first, rest, rfl, herror, heof⟩ := LengthCoded.eq_cons_of_decode? h
  have hlength : ¬ (first = 0xFE ∧ (first :: rest).length = PacketKind.eofLength) := by
    rintro ⟨hfirst, hlength⟩
    have hdigits := heof hfirst
    rw [List.length_cons, PacketKind.eofLength] at hlength
    omega
  simp only [IsContent, kind, PacketKind.ofFirstByte, if_neg herror, if_neg hlength]
  split
  case isTrue => exact .inl rfl
  case isFalse => exact .inr rfl

/-- So does a string, or SQL NULL, for its length is such an integer. SQL NULL has a
marker of its own, which is neither of the two. -/
theorem isContent_of_decodeCell? {x : Option Bytes × Nat}
    (h : LengthCoded.decodeCell? payload = some x) (sequence : UInt8) :
    IsContent ⟨sequence, payload⟩ := by
  rw [LengthCoded.decodeCell?] at h
  cases hinteger : LengthCoded.decode? payload with
  | none =>
    rw [hinteger] at h
    cases h
  | some integer => exact isContent_of_decode? hinteger sequence

/-- Content is no end marker, so a step that reads goes on with it. -/
theorem IsContent.ne_eof {p : Packet} (h : IsContent p) : p.kind ≠ .eof := by
  rcases h with hok | hdata
  · simp [hok]
  · simp [hdata]

/-- Content is no error either, so nothing is refused over it. -/
theorem IsContent.ne_error {p : Packet} (h : IsContent p) : p.kind ≠ .error := by
  rcases h with hok | hdata
  · simp [hok]
  · simp [hdata]

/-- An end marker has the marker byte and two words, and no byte more. A longer
payload with this marker is content. -/
theorem eq_of_kind_eq_eof {sequence : UInt8} (h : kind ⟨sequence, payload⟩ = .eof) :
    ∃ b₁ b₂ b₃ b₄, payload = [EofReply.marker, b₁, b₂, b₃, b₄] := by
  cases payload with
  | nil => cases h
  | cons first rest =>
    simp only [kind, PacketKind.ofFirstByte] at h
    split at h
    case isTrue => cases h
    split at h
    case isTrue => cases h
    split at h
    case isFalse => cases h
    case isTrue hmarker =>
      obtain ⟨rfl, hlength⟩ := hmarker
      -- Of all lengths only five bytes are short enough and as many as an end marker has.
      obtain _ | ⟨b₁, _ | ⟨b₂, _ | ⟨b₃, _ | ⟨b₄, _ | ⟨b₅, rest⟩⟩⟩⟩⟩ := rest
      case cons.cons.cons.cons.nil => exact ⟨b₁, b₂, b₃, b₄, rfl⟩
      all_goals simp [PacketKind.eofLength] at hlength

/-- What looks like an end marker can be read as one, since the two words behind the
marker may be anything. -/
theorem eofReply_of_kind_eq_eof {sequence : UInt8} (h : kind ⟨sequence, payload⟩ = .eof) :
    ∃ reply, EofReply.read.run? payload = some reply := by
  obtain ⟨b₁, b₂, b₃, b₄, rfl⟩ := eq_of_kind_eq_eof h
  exact ⟨_, rfl⟩

end Packet

/-! ### What begins with a string -/

/-- There is a string where one has been read, or SQL NULL. -/
theorem Reader.ends_cell (c : Cursor) :
    Ends cell c (fun _ _ => ∃ x, LengthCoded.decodeCell? c.rest = some x) (fun _ _ => True) := by
  rw [cell, ends_bind, ends_get]
  split
  case h_1 value used hcell => exact ⟨_, hcell⟩
  case h_2 => trivial

/-- A descriptor begins with a string, the catalog, which is not kept. -/
theorem Field.isContent_of_parse? {payload : Bytes} {field : Field} (h : parse? payload = some field)
    (sequence : UInt8) : Packet.IsContent ⟨sequence, payload⟩ := by
  rw [parse?, Reader.run?] at h
  split at h
  case h_1 hrun =>
    -- The first step of the reader skips a cell, and that is a string or nothing.
    obtain ⟨_, _, hskip, -⟩ := run_bind_eq_ok_iff.mp hrun
    obtain ⟨_, _, hcell, -⟩ := run_bind_eq_ok_iff.mp hskip
    obtain ⟨x, hx⟩ := (Reader.ends_cell _).ok_of_run hcell
    exact Packet.isContent_of_decodeCell? hx sequence
  case h_2 => cases h

namespace Row

/-- A row of one cell at least begins with a string. One of no cells has an empty
payload, which is not content. -/
theorem isContent_of_run_values {payload : Bytes} {n : Nat} {cells : List (Option String)}
    {r : Row} (hn : 1 ≤ n) (h : values.run (ofPayload payload n) = .ok cells r) (sequence : UInt8) :
    Packet.IsContent ⟨sequence, payload⟩ := by
  obtain ⟨parts, hsplits, hlength, -⟩ := run_values_eq_ok_iff.mp h
  have hsplits : Splits payload parts := hsplits
  have hsome : 1 ≤ parts.length := by
    rw [hlength]
    exact hn
  cases hsplits with
  | nil => exact absurd hsome (by decide)
  | @cons cell form rest _ hform _ =>
    have hcell := hform.decodeCell?_append rest
    exact Packet.isContent_of_decodeCell? hcell sequence

end Row

/-! ### Sessions -/

namespace Session

section

variable {τ : Type}

/-- The session has gone past a packet. What was behind the packet is to come now,
and nothing else has changed. -/
structure Past (holds : τ → Bytes → Nat → Prop) (rest : Bytes) (s s' : Session τ) : Prop where
  unread : holds s'.channel.transport rest 0
  sequence : s'.channel.sequence = s.channel.sequence + 1
  same : s' = { s with channel := s'.channel }

/-- No packet that looks like an end marker is an invalid one: what it says is
recorded. -/
theorem run_recordEof {sequence : UInt8} {payload : Bytes} {reply : EofReply}
    (hreply : EofReply.read.run? payload = some reply) (s : Session τ) :
    (decodeEof ⟨sequence, payload⟩ >>= recordEof).run s
      = .ok () { s with warnings := reply.warnings, statusFlags := reply.statusFlags } := by
  rw [decodeEof, decode, hreply]
  rfl

variable [Transport τ]

/-- The next that a session comes upon is a frame with this payload, on whichever
transport delivers it, and then the rest. -/
structure Faces (holds : τ → Bytes → Nat → Prop) (payload rest : Bytes) (s : Session τ) : Prop where
  delivery : Channel.Delivery s.channel.readAttempts holds
  unread : holds s.channel.transport (Packet.frame ⟨s.channel.sequence, payload⟩ ++ rest) 0
  short : payload.length < 0x1000000

variable {holds : τ → Bytes → Nat → Prop} {payload rest : Bytes} {s : Session τ}

/-- Content that a session comes upon is handed to the step that reads it. Neither
of the two kinds that it may be of is handled in any other way. -/
theorem Faces.ends_untilEnd (h : Faces holds payload rest s) {α : Type}
    (hcontent : Packet.IsContent ⟨s.channel.sequence, payload⟩)
    {content : Packet → SessionM τ (Option α)} {a : Option α}
    (hread : ∀ s', s' = { s with channel := s'.channel } →
      (content ⟨s.channel.sequence, payload⟩).run s' = .ok a s') :
    Ends (untilEnd content) s (fun a' s' => a' = a ∧ Past holds rest s s') (fun _ _ => False) := by
  rw [untilEnd, ends_bind, receive, onChannel, ends_focus]
  refine (h.delivery.ends_receive_frame rfl h.unread h.short).mono ?_ (fun _ _ hfalse => hfalse)
  intro packet c hc
  obtain ⟨rfl, hunread, hsequence, -⟩ := hc
  have hpast : Past holds rest s { s with channel := c } := ⟨hunread, hsequence, rfl⟩
  have hend : Ends (content ⟨s.channel.sequence, payload⟩) { s with channel := c }
      (fun a' s' => a' = a ∧ Past holds rest s s') (fun _ _ => False) := by
    rw [Ends, hread _ rfl]
    exact ⟨rfl, hpast⟩
  rcases hcontent with hkind | hkind
  · rw [hkind]
    exact hend
  · rw [hkind]
    exact hend

/-- A row that a session comes upon is given as it is, with the number of columns
that the session holds. -/
theorem Faces.ends_nextRow (h : Faces holds payload rest s)
    (hcontent : Packet.IsContent ⟨s.channel.sequence, payload⟩) :
    Ends nextRow s (fun row s' => row = some (.ofPayload payload s.columnCount) ∧ Past holds rest s s')
      (fun _ _ => False) := by
  rw [nextRow_eq]
  refine h.ends_untilEnd hcontent ?_
  intro s' hs'
  have hcount : s'.columnCount = s.columnCount := by rw [hs']
  rw [EStateM.run_bind, EStateM.run_get, ← hcount]
  rfl

/-- A descriptor that a session comes upon is given as it parses, and the session
has gone past its packet. -/
theorem Faces.ends_nextField (h : Faces holds payload rest s) {field : Field}
    (hcontent : Packet.IsContent ⟨s.channel.sequence, payload⟩)
    (hfield : Field.parse? payload = some field) :
    Ends nextField s (fun a s' => a = some field ∧ Past holds rest s s') (fun _ _ => False) := by
  rw [nextField_eq]
  refine h.ends_untilEnd hcontent ?_
  intro s' _
  rw [hfield]
  rfl

/-- Content is never mistaken for a marker. A payload that reads as a row of one
cell at least is neither an end marker nor an error, and on a frame that carries it
`nextRow` gives the row. So does `nextField` with a payload that reads as a
descriptor. A positive length-coded integer is data. And what looks like an end
marker can be read as one and is recorded. -/
theorem content_and_markers (sequence : UInt8) (payload : Bytes) :
    (∀ n ≥ 1, ∀ cells r, Row.values.run (.ofPayload payload n) = .ok cells r →
      Packet.kind ⟨sequence, payload⟩ ≠ .eof ∧ Packet.kind ⟨sequence, payload⟩ ≠ .error
        ∧ ∀ (holds : τ → Bytes → Nat → Prop) rest s, Faces holds payload rest s →
          Ends nextRow s
            (fun row s' => row = some (.ofPayload payload s.columnCount) ∧ Past holds rest s s')
            (fun _ _ => False))
    ∧ (∀ field, Field.parse? payload = some field →
      Packet.kind ⟨sequence, payload⟩ ≠ .eof ∧ Packet.kind ⟨sequence, payload⟩ ≠ .error
        ∧ ∀ (holds : τ → Bytes → Nat → Prop) rest s, Faces holds payload rest s →
          Ends nextField s (fun a s' => a = some field ∧ Past holds rest s s') (fun _ _ => False))
    ∧ (∀ n : UInt64, n ≥ 1 → Packet.kind ⟨sequence, LengthCoded.encode n⟩ = .data)
    ∧ (Packet.kind ⟨sequence, payload⟩ = .eof → ∃ reply, EofReply.read.run? payload = some reply
      ∧ ∀ s : Session τ, (decodeEof ⟨sequence, payload⟩ >>= recordEof).run s
        = .ok () { s with warnings := reply.warnings, statusFlags := reply.statusFlags }) := by
  refine ⟨?_, ?_, ?_, ?_⟩
  · intro n hn cells r hvalues
    have hcontent := Row.isContent_of_run_values hn hvalues
    refine ⟨(hcontent sequence).ne_eof, (hcontent sequence).ne_error, ?_⟩
    intro holds rest s h
    exact h.ends_nextRow (hcontent s.channel.sequence)
  · intro field hfield
    have hcontent := Field.isContent_of_parse? hfield
    refine ⟨(hcontent sequence).ne_eof, (hcontent sequence).ne_error, ?_⟩
    intro holds rest s h
    exact h.ends_nextField (hcontent s.channel.sequence) hfield
  · intro n hn
    -- Only the count 0 has the marker of OK for its first byte.
    have hne : n ≠ 0 := by
      rintro rfl
      exact absurd hn (by decide)
    have hkind := Packet.kind_encode_append sequence n []
    rwa [List.append_nil, if_neg hne] at hkind
  · intro heof
    obtain ⟨reply, hreply⟩ := Packet.eofReply_of_kind_eq_eof heof
    exact ⟨reply, hreply, run_recordEof hreply⟩

end

/-- A row whose only cell has its length in eight digits, so that it begins as an
end marker does; a descriptor of empty strings; and an end marker. The byte behind
each frame stays. -/
theorem content_and_markers_widest_length :
    let wide : Bytes := [0xFE, 3, 0, 0, 0, 0, 0, 0, 0, 0x61, 0x62, 0x63]
    let column : Bytes := [0, 0, 0, 0, 0, 0, 12, 33, 0, 4, 0, 0, 0, 3, 0, 0, 0]
    let facing (payload : Bytes) : Session MemoryTransport :=
      { ofTransport { incoming := Packet.frame ⟨0, payload⟩ ++ [7] } {} with columnCount := 1 }
    Ends nextRow (facing wide)
        (fun row s' => row = some (.ofPayload wide 1) ∧ s'.channel.transport.incoming = [7])
        (fun _ _ => False)
      ∧ Ends nextField (facing column)
        (fun field s' => field.map Field.type = some .long ∧ s'.channel.transport.incoming = [7])
        (fun _ _ => False)
      ∧ (∃ reply, EofReply.read.run? [0xFE, 1, 0, 2, 0] = some reply ∧ reply.warnings = 1) := by
  intro wide column facing
  have hfaces (payload : Bytes) (hshort : payload.length < 0x1000000) :
      Faces (MemoryTransport.Holds (facing payload).channel.transport) payload [7]
        (facing payload) :=
    ⟨MemoryTransport.delivery_holds (Nat.succ_pos _) _, ⟨rfl, Nat.zero_le _⟩, hshort⟩
  obtain ⟨hrows, -⟩ := content_and_markers (τ := MemoryTransport) 0 wide
  obtain ⟨-, hfields, -⟩ := content_and_markers (τ := MemoryTransport) 0 column
  obtain ⟨-, -, -, hends⟩ := content_and_markers (τ := MemoryTransport) 0 [0xFE, 1, 0, 2, 0]
  obtain ⟨-, -, hrow⟩ := hrows 1 (Nat.le_refl 1) [some "abc"] ⟨wide, 1, ⟨12, []⟩⟩ rfl
  obtain ⟨-, -, hfield⟩ := hfields ⟨"", "", "", 33, 4, .long, 0, 0⟩ (by decide +kernel)
  obtain ⟨reply, hreply, -⟩ := hends (by decide +kernel)
  have hwide := hrow _ _ _ (hfaces wide (by decide +kernel))
  have hcolumn := hfield _ _ _ (hfaces column (by decide +kernel))
  refine ⟨hwide.mono ?_ fun _ _ h => h, hcolumn.mono ?_ fun _ _ h => h, reply, hreply, ?_⟩
  · rintro row s' ⟨rfl, hpast⟩
    exact ⟨rfl, congrArg MemoryTransport.incoming hpast.unread.eq⟩
  · rintro field s' ⟨rfl, hpast⟩
    exact ⟨rfl, congrArg MemoryTransport.incoming hpast.unread.eq⟩
  · cases hreply
    rfl

end Session

end SqlWire
