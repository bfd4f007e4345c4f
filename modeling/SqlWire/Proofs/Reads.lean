import SqlWire.Field
import SqlWire.Proofs.Ends
import SqlWire.Reply
import SqlWire.Utf8.Lemmas

/-!
# What was written is what is read

`Reader.Reads r a bs` says that the reader `r` makes the value `a` of the bytes
`bs`, wherever these stand: it takes exactly them and leaves what follows. Readers
that are put together read what is written one after the other (`Reads.bind`), so
the law of a packet's reader follows the layout of the packet piece by piece.

A packet may carry more than its reader takes. `Reads.run?_append` is why that does
no harm.
-/

set_option autoImplicit false

namespace SqlWire

/-- Bytes without a zero byte do not end a text: all of them belong to it, and
whatever of the following bytes does. -/
theorem Bytes.takeWhile_ne_zero_append {bs : Bytes} (h : 0 ∉ bs) (rest : Bytes) :
    (bs ++ rest).takeWhile (· != 0) = bs ++ rest.takeWhile (· != 0) := by
  apply List.takeWhile_append_of_pos
  intro b hb
  rw [bne_iff_ne]
  rintro rfl
  exact h hb

namespace LengthCoded

/-- A written string takes at least the room of its content, whatever the width of
the length in front of it. -/
theorem length_le_length_encodeCell {cell : Option Bytes} {bs : Bytes} (h : bs ∈ cell) :
    bs.length ≤ (encodeCell cell).length := by
  obtain rfl : cell = some bs := h
  rw [encodeCell, encodeBytes, List.length_append]
  exact Nat.le_add_left _ _

end LengthCoded

namespace Reader

variable {ε ε' α β : Type}

/-- The reader takes the bytes for the value, and leaves what follows them. Neither
the position nor what follows may matter: this is what lets the law of a packet be
put together from the laws of its fields. -/
def Reads (r : EStateM ε Cursor α) (a : α) (bs : Bytes) : Prop :=
  ∀ (position : Nat) (ahead : Bytes),
    r.run ⟨position, bs ++ ahead⟩ = .ok a ⟨position + bs.length, ahead⟩

namespace Reads

/-- What is already known is read from no bytes, and so ends the encoding of
whatever came before it. -/
theorem pure (a : α) : Reads (Pure.pure a : EStateM ε Cursor α) a [] := by
  intro position ahead
  rfl

/-- One reader after another reads what is written one after the other. The second
one may depend on the value of the first, as the length in front of a string decides
how much is taken. -/
theorem bind {r : EStateM ε Cursor α} {next : α → EStateM ε Cursor β} {a : α} {b : β}
    {bs cs : Bytes}
    (h : Reads r a bs) (hnext : Reads (next a) b cs) : Reads (r >>= next) b (bs ++ cs) := by
  intro position ahead
  rw [EStateM.run_bind, List.append_assoc, h position (cs ++ ahead)]
  show (next a).run _ = _
  rw [hnext, List.length_append, Nat.add_assoc]

/-- What is made of a value is read from the bytes of the value. So a reader that
wraps a number has the encoding of the number. -/
theorem map {r : EStateM ε Cursor α} {a : α} {bs : Bytes} (h : Reads r a bs) (f : α → β) :
    Reads (f <$> r) (f a) bs := by
  intro position ahead
  rw [Action.run_map, h]

/-- A reader may word what it has read before it gives it. This is how a record ends
whose parts have all been read. -/
theorem bind_pure {r : EStateM ε Cursor α} {a : α} {bs : Bytes} (h : Reads r a bs) (f : α → β) :
    Reads (r >>= fun a => Pure.pure (f a)) (f a) bs := by
  rw [bind_pure_comp]
  exact h.map f

/-- What is made of failures does not matter where there is none. The reader of a
greeting names a defect at each step, and reads as if it did not. -/
theorem adaptExcept {r : EStateM ε Cursor α} {a : α} {bs : Bytes} (h : Reads r a bs)
    (f : ε → ε') : Reads (r.adaptExcept f) a bs := by
  intro position ahead
  rw [EStateM.run_adaptExcept, h]

/-- Behind a reader that takes what is ahead, everything depends on the next one.
The readers in front of the one that an argument is about are passed by with this,
one rewrite for each. -/
theorem ends_bind {r : EStateM ε Cursor α} {next : α → EStateM ε Cursor β} {a : α} {bs : Bytes}
    (h : Reads r a bs) (position : Nat) (ahead : Bytes) {ok : β → Cursor → Prop}
    {bad : ε → Cursor → Prop} :
    Action.Ends (r >>= next) ⟨position, bs ++ ahead⟩ ok bad
      ↔ Action.Ends (next a) ⟨position + bs.length, ahead⟩ ok bad := by
  rw [Action.Ends, EStateM.run_bind, h]
  rfl

/-- A value of a whole payload does not depend on what the reader leaves of it.
Servers may add to a payload what this reader does not know of. -/
theorem run?_append {r : Reader α} {a : α} {bs : Bytes} (h : Reads r a bs) (ahead : Bytes) :
    r.run? (bs ++ ahead) = some a := by
  rw [run?, Cursor.ofBytes, h 0 ahead]

/-- A payload that is nothing but the bytes of a value is read to this value. It is
the round trip for packets that are read to their end. -/
theorem run? {r : Reader α} {a : α} {bs : Bytes} (h : Reads r a bs) : r.run? bs = some a := by
  rw [← h.run?_append [], List.append_nil]

end Reads

/-! ### Single steps -/

/-- Bytes of a known number are read as they are, whatever comes behind them. -/
theorem reads_bytes {n : Nat} {bs : Bytes} (h : bs.length = n) : Reads (bytes n) bs bs := by
  intro position ahead
  simp only [bytes, EStateM.run_bind, EStateM.run_get, Bytes.splitExactly_append ahead h,
    EStateM.run_modify, EStateM.run_pure, h]

/-- Bytes of a known number are passed over, and nothing is made of them. So fillers
may hold anything. -/
theorem reads_skip {n : Nat} {bs : Bytes} (h : bs.length = n) : Reads (skip n) () bs := by
  have htaken : Reads (bytes n) bs bs := reads_bytes h
  exact htaken.map fun _ => ()

/-- A byte is written as itself. The wider numbers are put together from this one. -/
theorem reads_byte (b : UInt8) : Reads byte b [b] := by
  intro position ahead
  rfl

/-- A number below 2¹⁶ is read from its two bytes, least significant first. The
bound of the type is what makes two bytes enough. -/
theorem reads_word16 (n : UInt16) : Reads word16 n (Bytes.ofNat 2 n.toNat) := by
  have hlt : n.toNat < Bytes.bound 2 := n.toNat_lt
  have h := (reads_bytes (Bytes.length_ofNat 2 n.toNat)).map fun bs =>
    UInt16.ofNat (Bytes.toNat bs)
  rwa [Bytes.toNat_ofNat_of_lt hlt, UInt16.ofNat_toNat] at h

/-- A number below 2³² is read from its four bytes, the lowest first. -/
theorem reads_word32 (n : UInt32) : Reads word32 n (Bytes.ofNat 4 n.toNat) := by
  have hlt : n.toNat < Bytes.bound 4 := n.toNat_lt
  have h := (reads_bytes (Bytes.length_ofNat 4 n.toNat)).map fun bs =>
    UInt32.ofNat (Bytes.toNat bs)
  rwa [Bytes.toNat_ofNat_of_lt hlt, UInt32.ofNat_toNat] at h

/-- A text ends at the first zero byte. A zero byte in the content would end it too
early, so the content must have none. -/
theorem reads_terminatedText {bs : Bytes} (h : 0 ∉ bs) :
    Reads terminatedText (Utf8.decode bs) (bs ++ [0]) := by
  intro position ahead
  -- The content is told by its first zero byte, so it is all of `bs` and no more.
  have htake : (bs ++ 0 :: ahead).takeWhile (· != 0) = bs := by
    rw [Bytes.takeWhile_ne_zero_append h, List.takeWhile_cons_of_neg (by decide), List.append_nil]
  rw [List.append_assoc, List.singleton_append]
  simp only [terminatedText, EStateM.run_bind, EStateM.run_get, htake, List.drop_left,
    EStateM.run_modify, EStateM.run_pure, List.length_append, List.length_singleton]

/-- An integer is read in the form that is written of it, the shortest one. Longer
forms are read as well (`reads_coded_of_form`), but nobody writes them. -/
theorem reads_coded (n : UInt64) : Reads coded (.value n) (LengthCoded.encode n) := by
  intro position ahead
  simp [coded, LengthCoded.decode?_encode_append, Cursor.advance]

/-- It is read as well where SQL NULL is refused: no integer is written as the
marker. -/
theorem reads_codedInt (n : UInt64) : Reads codedInt n (LengthCoded.encode n) := by
  rw [← List.append_nil (LengthCoded.encode n)]
  exact (reads_coded n).bind (.pure n)

/-- A string reads as it was written if its length can be written at all. SQL NULL
has no length and needs no such condition. -/
theorem reads_cell {cell : Option Bytes} (h : ∀ bs ∈ cell, bs.length < UInt64.size) :
    Reads Reader.cell cell (LengthCoded.encodeCell cell) := by
  intro position ahead
  simp [Reader.cell, LengthCoded.decodeCell?_encodeCell_append ahead h, Cursor.advance]

/-- A string that nobody keeps is passed over as a whole, and so is SQL NULL in its
place. -/
theorem reads_skipCell {cell : Option Bytes} (h : ∀ bs ∈ cell, bs.length < UInt64.size) :
    Reads skipCell () (LengthCoded.encodeCell cell) := by
  have hcell : Reads Reader.cell cell (LengthCoded.encodeCell cell) := reads_cell h
  exact hcell.map fun _ => ()

/-- A string is read as the text that its bytes spell, also where SQL NULL is
refused. -/
theorem reads_codedText {bs : Bytes} (h : bs.length < UInt64.size) :
    Reads codedText (Utf8.decode bs) (LengthCoded.encodeBytes bs) := by
  have hwritable : ∀ content ∈ some bs, content.length < UInt64.size := by
    rintro content ⟨⟩
    exact h
  have hcell : Reads cell (some bs) (LengthCoded.encodeBytes bs) := reads_cell hwritable
  rw [← List.append_nil (LengthCoded.encodeBytes bs)]
  exact hcell.bind (.pure _)

/-- A marker that is there is passed over, and takes one byte. -/
theorem reads_skipMarker (marker : UInt8) : Reads (skipMarker marker) () [marker] := by
  intro position ahead
  simp [skipMarker, Cursor.peek, Cursor.advance]

end Reader

open Reader

/-! ### Packets -/

/-- The lengths of a descriptor's strings can be written, which is to say that they
are below 2⁶⁴. -/
structure FieldPacket.Writable (p : FieldPacket) : Prop where
  catalog : ∀ bs ∈ p.catalog, bs.length < UInt64.size
  database : p.database.length < UInt64.size
  table : p.table.length < UInt64.size
  baseTable : ∀ bs ∈ p.baseTable, bs.length < UInt64.size
  name : p.name.length < UInt64.size
  baseName : ∀ bs ∈ p.baseName, bs.length < UInt64.size

/-- What fits a packet has no longer strings. A descriptor that has been sent in a
frame is therefore read without a condition on its strings. -/
theorem FieldPacket.Writable.of_length_encode {p : FieldPacket}
    (h : p.encode.length < UInt64.size) : p.Writable := by
  simp only [encode, LengthCoded.encodeBytes, List.length_append] at h
  -- A string is no longer than what it is written as, and that is a part of the packet.
  have hcell {cell : Option Bytes} (hlength : (LengthCoded.encodeCell cell).length < UInt64.size) :
      ∀ bs ∈ cell, bs.length < UInt64.size := by
    intro bs hbs
    have hle := LengthCoded.length_le_length_encodeCell hbs
    exact Nat.lt_of_le_of_lt hle hlength
  exact {
    catalog := hcell (by omega), database := by omega, table := by omega
    baseTable := hcell (by omega), name := by omega, baseName := hcell (by omega) }

/-- A descriptor reads as the server wrote it. The strings that a client passes over
must be readable as well, since it has to find where they end. -/
theorem FieldPacket.reads_field {p : FieldPacket} (h : p.Writable) :
    Reads Field.read p.field p.encode := by
  simp only [encode, List.append_assoc]
  -- The fields in the order of the layout, each from the bytes that it was written as.
  refine (reads_skipCell h.catalog).bind ?_
  refine (reads_codedText h.database).bind ?_
  refine (reads_codedText h.table).bind ?_
  refine (reads_skipCell h.baseTable).bind ?_
  refine (reads_codedText h.name).bind ?_
  refine (reads_skipCell h.baseName).bind ?_
  refine (reads_codedInt p.blockLength).bind ?_
  refine (reads_word16 p.charset).bind ?_
  refine (reads_word32 p.columnLength).bind ?_
  refine (reads_byte p.typeCode).bind ?_
  refine (reads_word16 p.flags).bind ?_
  exact (reads_byte p.decimals).bind (.pure _)

/-- What stands behind a descriptor does not matter: the field is that of the
descriptor, whatever a server adds to its packet. -/
theorem FieldPacket.parse?_encode_append {p : FieldPacket} (h : p.Writable) (ahead : Bytes) :
    Field.parse? (p.encode ++ ahead) = some p.field := by
  have hread : Reads Field.read p.field p.encode := p.reads_field h
  exact hread.run?_append ahead

/-- An end marker reads as the server wrote it: the marker, the warnings and the
flags. -/
theorem EofReply.reads_encode (r : EofReply) : Reads EofReply.read r r.encode := by
  rw [encode, ← List.singleton_append]
  refine (reads_skipMarker marker).bind ?_
  refine (reads_word16 r.warnings).bind ?_
  rw [← List.append_nil (Bytes.ofNat 2 r.statusFlags.toNat)]
  exact (reads_word16 r.statusFlags).bind (.pure _)

namespace ErrReply

/-- The reply has a SQLSTATE of the length that a server sends, or none and no text
that could be taken for one. -/
structure Readable (r : ErrReply) : Prop where
  state : r.sqlState ≠ "" → (Utf8.encode r.sqlState).length = stateLength
  message : r.sqlState = "" → r.message.toList.head? ≠ some '#'

/-- A refusal reads as the server wrote it. All that follows the code and the state
is its text, so it is the whole payload that is read, and the law is not one of the
form `Reads`. -/
theorem run?_encode {r : ErrReply} (h : r.Readable) : ErrReply.read.run? r.encode = some r := by
  obtain ⟨code, sqlState, message⟩ := r
  have hmarker (first : UInt8) (position : Nat) (ahead : Bytes) :
      (skipMarker first).run ⟨position, first :: ahead⟩ = .ok () ⟨position + 1, ahead⟩ :=
    reads_skipMarker first position ahead
  have hcode (ahead : Bytes) : word16.run ⟨0 + 1, Bytes.ofNat 2 code.toNat ++ ahead⟩
      = .ok code ⟨0 + 1 + (Bytes.ofNat 2 code.toNat).length, ahead⟩ :=
    reads_word16 code _ ahead
  -- With no state the text stands right behind the code, and must not begin as a state
  -- would.
  by_cases hstate : sqlState = ""
  · subst hstate
    have hmessage : (Utf8.encode message).head? ≠ some stateMarker := by
      intro hhead
      have hfirst : message.toList.head? = some '#' :=
        Utf8.head?_of_head?_encode (by decide) hhead
      exact h.message rfl hfirst
    have hencode : encode ⟨code, "", message⟩
        = marker :: (Bytes.ofNat 2 code.toNat ++ Utf8.encode message) := by
      simp [encode]
    simp only [Reader.run?, Cursor.ofBytes, hencode, read, EStateM.run_bind, hmarker, hcode,
      EStateM.run_get, Cursor.peek, hmessage, if_false, EStateM.run_pure, restText, rest,
      EStateM.run_modify, Utf8.decode_encode]
  · have hbytes (position : Nat) (ahead : Bytes) := reads_bytes (h.state hstate) position ahead
    have hempty : sqlState.isEmpty = false := by simpa using hstate
    have hencode : encode ⟨code, sqlState, message⟩ = marker :: (Bytes.ofNat 2 code.toNat
        ++ stateMarker :: (Utf8.encode sqlState ++ Utf8.encode message)) := by
      simp [encode, hempty]
    simp only [Reader.run?, Cursor.ofBytes, hencode, read, EStateM.run_bind, hmarker, hcode,
      EStateM.run_get, Cursor.peek, List.head?_cons, if_true, Reader.text, hbytes, EStateM.run_pure,
      restText, rest, EStateM.run_modify, Utf8.decode_encode]

end ErrReply

end SqlWire
