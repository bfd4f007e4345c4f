import SqlWire.Proofs.Greeting
import SqlWire.Proofs.Reads.Local

/-!
# Which payloads are greetings

`Greeting.LaidOut` says of a payload, byte by byte, that it has the layout of a
greeting, and `Greeting.fieldsAt` picks the fields out of it by their places. The
places all hang on the first zero byte behind the version number, which ends the
only field of no fixed width.

A payload with the layout is what some `GreetingPacket` is written as
(`LaidOut.encode_packet`), so it is read as its fields. A payload with less has had
something cut off it: more bytes would give it the layout, and since no step of the
reader looks ahead, what is missing is missed (`laidOut_or_missing`,
`ends_readBody_of_missing`). `parse_eq_ok_iff_laidOut` puts both together, with what
is reported of any other payload.
-/

set_option autoImplicit false

namespace SqlWire

namespace Bytes

variable {bs : Bytes} {start stop : Nat}

/-- A byte and what is behind it are what is behind the byte before. A payload is
put together again with this, field by field. -/
theorem cons_drop_of_getElem? {b : UInt8} (h : bs[start]? = some b) :
    b :: bs.drop (start + 1) = bs.drop start := by
  obtain ⟨hlt, rfl⟩ := List.getElem?_eq_some_iff.mp h
  exact (List.drop_eq_getElem_cons hlt).symm

/-- The same holds of a byte that is picked out by its place, as the fields of one
byte are. -/
theorem getD_cons_drop (h : start < bs.length) :
    bs.getD start 0 :: bs.drop (start + 1) = bs.drop start := by
  apply cons_drop_of_getElem?
  rw [List.getD, List.getElem?_eq_getElem h, Option.getD_some]

/-- A number is written as the bytes that its lowest digits are. This is the way
back from a number that was read to its bytes. -/
theorem ofNat_eq {width n : Nat} (hlength : bs.length = width) (h : n % bound width = toNat bs) :
    ofNat width n = bs := by
  have hdigits := ofNat_toNat (ofNat width n)
  rw [length_ofNat, toNat_ofNat, h, ← hlength, ofNat_toNat] at hdigits
  rw [← hlength]
  exact hdigits.symm

/-- Two bytes are what the number that they spell is written as. Its type is just
wide enough, so nothing of them is lost. -/
theorem ofNat_word16 (h : bs.length = 2) : ofNat 2 (UInt16.ofNat (toNat bs)).toNat = bs := by
  apply ofNat_eq h
  rw [UInt16.toNat_ofNat']
  have hbound := toNat_lt bs
  simp only [h, bound] at hbound ⊢
  omega

/-- The same holds of four bytes. -/
theorem ofNat_word32 (h : bs.length = 4) : ofNat 4 (UInt32.ofNat (toNat bs)).toNat = bs := by
  apply ofNat_eq h
  rw [UInt32.toNat_ofNat']
  have hbound := toNat_lt bs
  simp only [h, bound] at hbound ⊢
  omega

/-- A number that is made up of two halves is written as them, the lower one as its
lowest bytes and the upper one as those above. -/
theorem ofNat_halves {lower upper : Bytes} {n : UInt32} (hlower : lower.length = 2)
    (hupper : upper.length = 2) (hn : n = UInt32.ofNat (toNat lower + 0x10000 * toNat upper)) :
    ofNat 2 n.toNat = lower ∧ ofNat 2 (n.toNat / 0x10000) = upper := by
  have hlt := toNat_lt lower
  have hlt' := toNat_lt upper
  simp only [hlower, hupper, bound] at hlt hlt'
  -- The sum fits four bytes, so nothing of it is lost by the conversion.
  have hnat : n.toNat = toNat lower + 0x10000 * toNat upper := by
    rw [hn, UInt32.toNat_ofNat']
    omega
  constructor
  · apply ofNat_eq hlower
    simp only [bound]
    omega
  · apply ofNat_eq hupper
    simp only [bound]
    omega

end Bytes

namespace Greeting

open SqlWire.Action Reader

/-- The payload has the layout of a greeting whose version text ends before the zero
byte at `i`. It is the first zero byte behind the version number, so there is one
`i` at most, and there are 43 bytes at least behind it. -/
structure LaidOut (payload : Bytes) (i : Nat) : Prop where
  version : payload[0]? = some supportedVersion
  pos : 1 ≤ i
  terminator : payload[i]? = some 0
  first : ∀ j, 1 ≤ j → j < i → payload[j]? ≠ some 0
  room : i + 44 ≤ payload.length

/-- What the layout gives the bytes to mean. Each field is at a fixed distance
behind the zero byte, and the definition reads nothing else, so whatever else a
payload holds cannot matter. -/
def fieldsAt (payload : Bytes) (i : Nat) : Greeting where
  protocolVersion := supportedVersion
  serverVersion := Utf8.decode (payload.slice 1 i)
  threadId := UInt32.ofNat (Bytes.toNat (payload.slice (i + 1) (i + 5)))
  seed := payload.slice (i + 5) (i + 13) ++ payload.slice (i + 32) (i + 44)
  capabilities := UInt32.ofNat (Bytes.toNat (payload.slice (i + 14) (i + 16))
    + 0x10000 * Bytes.toNat (payload.slice (i + 19) (i + 21)))
  charset := payload.getD (i + 16) 0
  statusFlags := UInt16.ofNat (Bytes.toNat (payload.slice (i + 17) (i + 19)))

namespace LaidOut

variable {payload : Bytes} {i : Nat}

/-- The layout of a payload from its version text and the block behind that. The
block is long enough to hold all the fields. -/
theorem of_block {version block : Bytes} (hversion : 0 ∉ version) (hblock : 43 ≤ block.length) :
    LaidOut (supportedVersion :: (version ++ 0 :: block)) (version.length + 1) where
  version := rfl
  pos := Nat.le_add_left _ _
  terminator := by simp
  first j hj hlt := by
    obtain ⟨k, rfl⟩ : ∃ k, j = k + 1 := ⟨j - 1, by omega⟩
    rw [List.getElem?_cons_succ, List.getElem?_append_left (by omega)]
    intro hzero
    have hmem : 0 ∈ version := List.mem_of_getElem? hzero
    exact hversion hmem
  room := by
    simp only [List.length_cons, List.length_append]
    omega

/-- The version text is what stands before the first zero byte, so there is none in
it. -/
theorem version_terminated (h : LaidOut payload i) : 0 ∉ payload.slice 1 i := by
  intro hzero
  obtain ⟨k, hk⟩ := List.mem_iff_getElem?.mp hzero
  rw [Bytes.slice, List.getElem?_take, List.getElem?_drop] at hk
  split at hk
  · exact h.first (1 + k) (by omega) (by omega) hk
  · cases hk

/-- Its two parts make up a seed of the length that an answer is made for. -/
theorem length_seed (h : LaidOut payload i) :
    (fieldsAt payload i).seed.length = Scramble.length := by
  have hroom := h.room
  have hscramble : Scramble.length = 20 := rfl
  rw [fieldsAt, List.length_append, Bytes.length_slice (by omega), Bytes.length_slice (by omega)]
  omega

/-- The gap behind the length of the seed has ten bytes, which may be any. -/
theorem length_reserved (h : LaidOut payload i) : (payload.slice (i + 22) (i + 32)).length = 10 := by
  have hroom := h.room
  rw [Bytes.length_slice (by omega)]
  omega

/-- The packet that a payload with the layout is. The bytes that nobody reads are
kept in it as well, in the fields that have no meaning, so that the payload can be
told from it. -/
def packet (h : LaidOut payload i) : GreetingPacket where
  version := payload.slice 1 i
  threadId := (fieldsAt payload i).threadId
  seed := (fieldsAt payload i).seed
  filler := payload.getD (i + 13) 0
  capabilities := (fieldsAt payload i).capabilities
  charset := (fieldsAt payload i).charset
  statusFlags := (fieldsAt payload i).statusFlags
  seedLength := payload.getD (i + 21) 0
  reserved := payload.slice (i + 22) (i + 32)
  trailing := payload.drop (i + 44)
  version_terminated := h.version_terminated
  length_seed := h.length_seed
  length_reserved := h.length_reserved

/-- What a client keeps of the packet are the fields at their places. -/
theorem greeting_packet (h : LaidOut payload i) : h.packet.greeting = fieldsAt payload i := rfl

/-- The payload is what its packet is written as. That a payload with the layout is
read as its fields then follows from what is known of greetings that have been
written. -/
theorem encode_packet (h : LaidOut payload i) : h.packet.encode = payload := by
  have hpos := h.pos
  have hroom := h.room
  have hlength {start stop width : Nat} (hstop : stop ≤ i + 44) (hwidth : stop - start = width) :
      (payload.slice start stop).length = width := by
    rw [Bytes.length_slice (by omega), hwidth]
  have hversion : supportedVersion :: payload.drop 1 = payload.drop 0 :=
    Bytes.cons_drop_of_getElem? h.version
  have hterminator : 0 :: payload.drop (i + 1) = payload.drop i :=
    Bytes.cons_drop_of_getElem? h.terminator
  have hthread : Bytes.ofNat 4 h.packet.threadId.toNat = payload.slice (i + 1) (i + 5) :=
    Bytes.ofNat_word32 (hlength (by omega) (by omega))
  have hstatus : Bytes.ofNat 2 h.packet.statusFlags.toNat = payload.slice (i + 17) (i + 19) :=
    Bytes.ofNat_word16 (hlength (by omega) (by omega))
  have hhalves : Bytes.ofNat 2 h.packet.capabilities.toNat = payload.slice (i + 14) (i + 16)
      ∧ Bytes.ofNat 2 (h.packet.capabilities.toNat / 0x10000) = payload.slice (i + 19) (i + 21) :=
    Bytes.ofNat_halves (hlength (by omega) (by omega)) (hlength (by omega) (by omega)) rfl
  have hseed : h.packet.seed.take seedFirstLength = payload.slice (i + 5) (i + 13) :=
    List.take_left' (hlength (by omega) (by simp [seedFirstLength]))
  have hseed' : h.packet.seed.drop seedFirstLength = payload.slice (i + 32) (i + 44) :=
    List.drop_left' (hlength (by omega) (by simp [seedFirstLength]))
  rw [GreetingPacket.encode, GreetingPacket.fields, hthread, hstatus, hhalves.1, hhalves.2, hseed,
    hseed']
  -- From the last piece on: a piece and what is behind it are what is behind the piece before.
  simp only [packet, fieldsAt, List.append_assoc, List.cons_append, List.nil_append]
  simp (disch := omega) only [Bytes.slice_append_drop, Bytes.getD_cons_drop, hterminator, hversion,
    List.drop_zero]

/-- A payload with the layout is read as the fields that stand in it. The payload is
written as a packet first, which is read field by field. -/
theorem parse_eq (h : LaidOut payload i) : parse payload = .ok (fieldsAt payload i) := by
  have hparse := h.packet.parse_encode
  rwa [h.encode_packet, h.greeting_packet] at hparse

/-- Bytes that are no field of the layout and not in its terminator may be any
others: there is one such byte between the parts of the seed, and there are eleven
before the second part. -/
theorem congr {other : Bytes} (h : LaidOut payload i)
    (hsame : ∀ j, j < i + 13 ∨ i + 14 ≤ j ∧ j < i + 21 ∨ i + 32 ≤ j ∧ j < i + 44 →
      other[j]? = payload[j]?) :
    LaidOut other i ∧ fieldsAt other i = fieldsAt payload i := by
  have hpos := h.pos
  have hroom := h.room
  have hslice {start stop : Nat} (hrange : stop ≤ i + 13 ∨ i + 14 ≤ start ∧ stop ≤ i + 21
      ∨ i + 32 ≤ start ∧ stop ≤ i + 44) : other.slice start stop = payload.slice start stop := by
    apply Bytes.slice_congr
    intro j hstart hstop
    exact hsame j (by omega)
  have hcharset : other.getD (i + 16) 0 = payload.getD (i + 16) 0 := by
    rw [List.getD, List.getD, hsame _ (by omega)]
  -- The other payload has its first zero byte at the same place, and is long enough.
  constructor
  · exact {
      version := (hsame 0 (by omega)).trans h.version
      pos := h.pos
      terminator := (hsame i (by omega)).trans h.terminator
      first j hj hlt := by
        rw [hsame j (by omega)]
        exact h.first j hj hlt
      room := by
        -- The last byte of the seed is there.
        have hlast := hsame (i + 43) (by omega)
        rw [List.getElem?_eq_getElem (by omega : i + 43 < payload.length)] at hlast
        have hlt := (List.getElem?_eq_some_iff.mp hlast).1
        omega }
  · simp (disch := omega) only [fieldsAt, hslice, hcharset]

end LaidOut

/-- The fields behind the version number are read by steps that look no further than
they take. -/
theorem local_readBody (protocolVersion : UInt8) : Local (readBody protocolVersion) := by
  -- One step for each field, in the order of the layout.
  refine (local_terminatedText.adaptExcept _).bind ?_
  intro serverVersion
  refine (local_word32.adaptExcept _).bind ?_
  intro threadId
  refine ((local_bytes _).adaptExcept _).bind ?_
  intro seedFirst
  refine ((local_skip _).adaptExcept _).bind ?_
  intro _
  refine (local_word16.adaptExcept _).bind ?_
  intro lower
  refine (local_byte.adaptExcept _).bind ?_
  intro charset
  refine (local_word16.adaptExcept _).bind ?_
  intro statusFlags
  refine (local_word16.adaptExcept _).bind ?_
  intro upper
  refine ((local_skip _).adaptExcept _).bind ?_
  intro _
  refine ((local_bytes _).adaptExcept _).bind ?_
  intro seedSecond
  exact local_pure _

/-- The defect is reported as a breach of the protocol. All of them are but the
refusal that can be read. -/
def Defect.IsBreach (defect : Defect) : Prop :=
  ∃ e, defect.toError = .protocol e

/-- Whichever field is missing, the protocol is broken. The errors differ only in
what they complain about. -/
theorem failsOnly_readBody (protocolVersion : UInt8) :
    FailsOnly Defect.IsBreach (readBody protocolVersion) := by
  have hbreach {α : Type} (step : Reader α) {defect : Defect} (h : defect.IsBreach) :
      FailsOnly Defect.IsBreach (orDefect step defect) := failsOnly_adaptExcept (fun _ => h) step
  -- One step for each field, and the defect of each is worded as a breach.
  refine (hbreach _ ⟨_, rfl⟩).bind ?_
  intro serverVersion
  refine (hbreach _ ⟨_, rfl⟩).bind ?_
  intro threadId
  refine (hbreach _ ⟨_, rfl⟩).bind ?_
  intro seedFirst
  refine (hbreach _ ⟨_, rfl⟩).bind ?_
  intro _
  refine (hbreach _ ⟨_, rfl⟩).bind ?_
  intro lower
  refine (hbreach _ ⟨_, rfl⟩).bind ?_
  intro charset
  refine (hbreach _ ⟨_, rfl⟩).bind ?_
  intro statusFlags
  refine (hbreach _ ⟨_, rfl⟩).bind ?_
  intro upper
  refine (hbreach _ ⟨_, rfl⟩).bind ?_
  intro _
  refine (hbreach _ ⟨_, rfl⟩).bind ?_
  intro seedSecond
  exact failsOnly_pure _

/-- Whatever stands behind the version number has the layout, or lacks bytes that
would give it the layout with nothing behind it. So a payload without the layout is
always one that has been cut short, and nothing else can be wrong with it. -/
theorem laidOut_or_missing (rest : Bytes) :
    (∃ i, LaidOut (supportedVersion :: rest) i)
      ∨ ∃ missing i, missing ≠ [] ∧ LaidOut (supportedVersion :: (rest ++ missing)) i
        ∧ (supportedVersion :: (rest ++ missing)).length = i + 44 := by
  by_cases hzero : 0 ∈ rest
  · obtain ⟨version, block, rfl, hversion⟩ := List.eq_append_cons_of_mem hzero
    by_cases hblock : 43 ≤ block.length
    · exact .inl ⟨_, .of_block hversion hblock⟩
    · right
      -- The block is too short, and zeros at its end make it long enough.
      refine ⟨List.replicate (43 - block.length) 0, version.length + 1, ?_, ?_, ?_⟩
      · rw [ne_eq, List.replicate_eq_nil_iff]
        omega
      · rw [List.append_assoc, List.cons_append]
        apply LaidOut.of_block hversion
        rw [List.length_append, List.length_replicate]
        omega
      · simp only [List.length_cons, List.length_append, List.length_replicate]
        omega
  · -- Even the version text has no end.
    right
    refine ⟨0 :: List.replicate 43 0, rest.length + 1, List.cons_ne_nil _ _, ?_, ?_⟩
    · exact LaidOut.of_block hzero (Nat.le_of_eq List.length_replicate.symm)
    · simp only [List.length_cons, List.length_append, List.length_replicate]

/-- Fields of which the last bytes are missing are not read. With the bytes they
would be all that is read, and a step that looks no further than it takes cannot do
without. -/
theorem ends_readBody_of_missing {rest missing : Bytes} {i : Nat}
    (h : LaidOut (supportedVersion :: (rest ++ missing)) i)
    (hlength : (supportedVersion :: (rest ++ missing)).length = i + 44) (hmissing : missing ≠ []) :
    Ends (readBody supportedVersion) ⟨1, rest⟩ (fun _ _ => False) (fun _ _ => True) := by
  have htrailing : h.packet.trailing = [] := List.drop_eq_nil_of_le (Nat.le_of_eq hlength)
  have hfields : h.packet.fields = rest ++ missing := by
    have hencode := h.encode_packet
    rw [GreetingPacket.encode, htrailing, List.append_nil] at hencode
    exact List.tail_eq_of_cons_eq hencode
  have hreads := h.packet.reads_fields
  rw [hfields] at hreads
  exact (local_readBody supportedVersion).ends_of_missing hreads hmissing 1

/-- Where something is missing, there is no greeting, and the protocol is broken. -/
theorem exists_breach_of_ends {rest : Bytes}
    (h : Ends (readBody supportedVersion) ⟨1, rest⟩ (fun _ _ => False) (fun _ _ => True)) :
    ∃ defect, parse (supportedVersion :: rest) = .error defect ∧ defect.IsBreach := by
  have hversion : supportedVersion ≠ ErrReply.marker := by decide
  rw [parse, if_neg hversion, if_pos rfl]
  cases hrun : (readBody supportedVersion).run ⟨1, rest⟩ with
  | ok g c =>
    rw [Ends, hrun] at h
    exact h.elim
  | error defect c =>
    have hbreach : defect.IsBreach := (failsOnly_readBody _ _).error_of_run hrun
    exact ⟨defect, rfl, hbreach⟩

/-- What is no greeting and does not begin as a refusal breaks the protocol. A
refusal is told by its first byte. -/
theorem isBreach_of_parse {payload : Bytes} {defect : Defect} (h : parse payload = .error defect)
    (hmarker : payload[0]? ≠ some ErrReply.marker) : defect.IsBreach := by
  cases payload with
  | nil =>
    cases h
    exact ⟨_, rfl⟩
  | cons first rest =>
    rw [parse] at h
    split at h
    · -- The payload does begin as a refusal here.
      next hfirst => exact absurd (congrArg some hfirst) hmarker
    · split at h
      · split at h
        · cases h
        · next heq =>
          cases h
          exact (failsOnly_readBody _ _).error_of_run heq
      · cases h
        exact ⟨_, rfl⟩

/-- A greeting begins with the version that is understood. Any other version is a
defect of its own. -/
theorem eq_cons_of_parse {payload : Bytes} {g : Greeting} (h : parse payload = .ok g) :
    ∃ rest, payload = supportedVersion :: rest := by
  cases payload with
  | nil => cases h
  | cons first rest =>
    rw [parse] at h
    split at h
    · split at h <;> cases h
    · split at h
      · next hversion => exact ⟨rest, congrArg (· :: rest) hversion⟩
      · cases h

/-- Only what has the layout is a greeting. What has not is cut short, and then some
step misses its bytes. -/
theorem exists_laidOut_of_parse {payload : Bytes} {g : Greeting} (h : parse payload = .ok g) :
    ∃ i, LaidOut payload i := by
  obtain ⟨rest, rfl⟩ := eq_cons_of_parse h
  rcases laidOut_or_missing rest with hlaid | ⟨missing, i, hmissing, hlaid, hlength⟩
  · exact hlaid
  · obtain ⟨defect, hdefect, -⟩ :=
      exists_breach_of_ends (ends_readBody_of_missing hlaid hlength hmissing)
    rw [hdefect] at h
    cases h

/-- A greeting that is cut before the last byte of the seed is none. Cut before its
first byte it is empty, which is a defect of its own. -/
theorem exists_breach_take (q : GreetingPacket) {k : Nat} (hk : k ≤ q.fields.length) :
    ∃ defect, parse (q.encode.take k) = .error defect ∧ defect.IsBreach := by
  cases k with
  | zero => exact ⟨.empty, rfl, _, rfl⟩
  | succ k =>
    rw [GreetingPacket.encode, List.take_succ_cons, List.take_append_of_le_length (by omega)]
    -- One byte of the cut is the version number, so a field is cut for certain.
    have hend := (local_readBody supportedVersion).ends_take q.reads_fields hk 1
    exact exists_breach_of_ends hend

/-- A payload that begins as a refusal is one, or else it breaks the protocol. The
version number is not looked at then. -/
theorem parse_of_marker {payload : Bytes} (h : payload[0]? = some ErrReply.marker) :
    parse payload = .error (match ErrReply.read.run? payload with
      | some reply => .refused reply
      | none => .garbledRefusal) := by
  cases payload with
  | nil => cases h
  | cons first rest =>
    obtain rfl : first = ErrReply.marker := Option.some.inj h
    rw [parse, if_pos rfl]
    cases ErrReply.read.run? (ErrReply.marker :: rest) with
    | some reply => rfl
    | none => rfl

/-- A payload is a greeting if and only if it has the layout: the version number, a
version text that a zero byte ends, and all the bytes up to the last one of the
seed. The greeting is made of the fields at their places, and no byte between or
behind them has a part in it. A payload that begins with the ERR marker is a refusal
with the server's code if it can be read, and breaks the protocol if not; so does
any other payload without the layout. What a server writes in the layout is what is
read, and what is cut anywhere before the end of the seed is not read. -/
theorem parse_eq_ok_iff_laidOut (payload : Bytes) :
    (∀ g, parse payload = .ok g ↔ ∃ i, LaidOut payload i ∧ g = fieldsAt payload i)
      ∧ (∀ other i, LaidOut payload i →
        (∀ j, j < i + 13 ∨ i + 14 ≤ j ∧ j < i + 21 ∨ i + 32 ≤ j ∧ j < i + 44 →
          other[j]? = payload[j]?) → parse other = parse payload)
      ∧ (payload[0]? = some ErrReply.marker →
        (∀ reply, ErrReply.read.run? payload = some reply →
          ∃ defect, parse payload = .error defect ∧ defect.toError = .connection {
            kind := .connect
            message := s!"Server refused connection: {reply.message}"
            code := some reply.code
            sqlState := reply.sqlState?
            source := none })
        ∧ (ErrReply.read.run? payload = none →
          ∃ defect, parse payload = .error defect ∧ defect.IsBreach))
      ∧ (∀ defect, payload[0]? ≠ some ErrReply.marker → parse payload = .error defect →
        defect.IsBreach)
      ∧ ∀ q : GreetingPacket, payload = q.encode → parse payload = .ok q.greeting
        ∧ (∀ text, q.version = Utf8.encode text → q.greeting.serverVersion = text)
        ∧ ∀ k ≤ q.fields.length, ∃ defect, parse (payload.take k) = .error defect
          ∧ defect.IsBreach := by
  refine ⟨?_, ?_, ?_, ?_, ?_⟩
  · intro g
    constructor
    · intro h
      obtain ⟨i, hlaid⟩ := exists_laidOut_of_parse h
      rw [hlaid.parse_eq] at h
      cases h
      exact ⟨i, hlaid, rfl⟩
    · rintro ⟨i, hlaid, rfl⟩
      exact hlaid.parse_eq
  · -- Both payloads have the layout, so both are read as their fields, which are the same.
    intro other i hlaid hsame
    obtain ⟨hother, hfields⟩ := hlaid.congr hsame
    rw [hother.parse_eq, hlaid.parse_eq, hfields]
  · intro hmarker
    constructor
    · intro reply hreply
      refine ⟨.refused reply, ?_, rfl⟩
      rw [parse_of_marker hmarker, hreply]
    · intro hgarbled
      refine ⟨.garbledRefusal, ?_, _, rfl⟩
      rw [parse_of_marker hmarker, hgarbled]
  · intro defect hmarker h
    exact isBreach_of_parse h hmarker
  · -- What a server writes has the layout, and a prefix of it that ends too early has
    -- not.
    rintro q rfl
    refine ⟨q.parse_encode, ?_, ?_⟩
    · intro text htext
      rw [GreetingPacket.greeting, htext, Utf8.decode_encode]
    · intro k hk
      exact exists_breach_take q hk

/-- A greeting; the same one with other bytes in the gaps and nothing behind the
seed; a refusal; a refusal that is too short for its code; an older protocol; and
the greeting without the last byte of its seed. -/
theorem parse_eq_ok_iff_laidOut_of_samples :
    let q : GreetingPacket := {
      version := [0x35], threadId := 7, seed := List.replicate 8 1 ++ List.replicate 12 2
      filler := 0, capabilities := 0x10200, charset := 8, statusFlags := 2, seedLength := 21
      reserved := List.replicate 10 0, trailing := [0], version_terminated := by decide
      length_seed := rfl, length_reserved := rfl }
    let other : Bytes := GreetingPacket.encode { q with
      filler := 9, seedLength := 0, reserved := List.replicate 10 7, trailing := []
      length_reserved := rfl }
    let refusal : Bytes := [0xFF, 0x6A, 4, 0x48]
    LaidOut q.encode 2 ∧ parse q.encode = .ok (fieldsAt q.encode 2)
      ∧ (fieldsAt q.encode 2).capabilities = 0x10200 ∧ (fieldsAt q.encode 2).seed = q.seed
      ∧ parse other = parse q.encode
      ∧ (∃ defect, parse refusal = .error defect ∧ defect.toError = .connection
        ⟨.connect, "Server refused connection: H", some 1130, none, none⟩)
      ∧ (∃ defect, parse [0xFF, 1] = .error defect ∧ defect.IsBreach)
      ∧ (∃ defect, parse [9] = .error defect ∧ defect.IsBreach)
      ∧ ∃ defect, parse (q.encode.take 45) = .error defect ∧ defect.IsBreach := by
  intro q other refusal
  have hlaid : LaidOut q.encode 2 := {
    version := rfl
    pos := by decide
    terminator := rfl
    first j hj hlt := by
      obtain rfl : j = 1 := by omega
      decide +kernel
    room := by decide +kernel }
  have hsame : ∀ j < 46, j < 15 ∨ 16 ≤ j ∧ j < 23 ∨ 34 ≤ j ∧ j < 46 →
      other[j]? = q.encode[j]? := by decide +kernel
  obtain ⟨hiff, hgaps, -, -, hwritten⟩ := parse_eq_ok_iff_laidOut q.encode
  refine ⟨hlaid, ?_, ?_, ?_, ?_, ?_, ?_, ?_, ?_⟩
  · rw [hiff]
    exact ⟨2, hlaid, rfl⟩
  · decide +kernel
  · decide +kernel
  · apply hgaps other 2 hlaid
    intro j hj
    exact hsame j (by omega) hj
  · obtain ⟨-, -, hmarker, -⟩ := parse_eq_ok_iff_laidOut refusal
    exact (hmarker rfl).1 ⟨1130, "", "H"⟩ (by decide +kernel)
  · obtain ⟨-, -, hmarker, -⟩ := parse_eq_ok_iff_laidOut [0xFF, 1]
    exact (hmarker rfl).2 (by decide +kernel)
  · obtain ⟨-, -, -, hother, -⟩ := parse_eq_ok_iff_laidOut [9]
    exact ⟨.version 9, rfl, hother (.version 9) (by decide) rfl⟩
  · obtain ⟨-, -, hcut⟩ := hwritten q rfl
    exact hcut 45 (by decide +kernel)

end Greeting

end SqlWire
