import SqlWire.Proofs.Reads.Local

/-!
# Field descriptors are read whole or not at all

A descriptor is six strings, three of which nobody reads, and a block of fields
without anything to separate them, so that every place in it depends on the lengths
before. `FieldPacket.parse?_of_parts` says that this goes well whatever the strings
are and whatever follows the block, that the strings which are passed over do not
matter, and that a descriptor cut anywhere before its last byte is none.
-/

set_option autoImplicit false

namespace SqlWire

open Reader

/-- A descriptor is put together from steps that look no further than they take. No
field of it is told by what stands behind it, which is why a cut anywhere is
noticed. -/
theorem Field.local_read : Local Field.read := by
  -- The six strings, of which three are passed over.
  refine local_skipCell.bind ?_
  intro _
  refine local_codedText.bind ?_
  intro database
  refine local_codedText.bind ?_
  intro table
  refine local_skipCell.bind ?_
  intro _
  refine local_codedText.bind ?_
  intro name
  refine local_skipCell.bind ?_
  intro _
  -- The length of the block, and the block.
  refine local_codedInt.bind ?_
  intro _
  refine local_word16.bind ?_
  intro charset
  refine local_word32.bind ?_
  intro columnLength
  refine local_byte.bind ?_
  intro typeCode
  refine local_word16.bind ?_
  intro flags
  refine local_byte.bind ?_
  intro decimals
  exact local_pure _

namespace FieldPacket

/-- A descriptor whose strings have lengths that can be written is read field by
field as it was written, with anything behind it: the database, the table and the
name as text, which is the text that was meant if they were written from one, and
the numbers as they are. With other strings in place of those that are passed over,
or with SQL NULL there, the same is read. A descriptor cut short of its last byte is
not read at all. -/
theorem parse?_of_parts (p : FieldPacket) (h : p.Writable) :
    (∀ trailing, ∃ f, Field.parse? (p.encode ++ trailing) = some f
        ∧ f = {
          database := Utf8.decode p.database
          table := Utf8.decode p.table
          name := Utf8.decode p.name
          charset := p.charset
          columnLength := p.columnLength
          type := .ofCode p.typeCode
          flags := p.flags
          decimals := p.decimals }
        ∧ ∀ text, (p.database = Utf8.encode text → f.database = text)
          ∧ (p.table = Utf8.encode text → f.table = text)
          ∧ (p.name = Utf8.encode text → f.name = text))
      ∧ (∀ (catalog baseTable baseName : Option Bytes) (trailing trailing' : Bytes),
        let q : FieldPacket := { p with catalog, baseTable, baseName }
        q.Writable → Field.parse? (q.encode ++ trailing') = Field.parse? (p.encode ++ trailing))
      ∧ ∀ k < p.encode.length, Field.parse? (p.encode.take k) = none := by
  refine ⟨?_, ?_, ?_⟩
  · intro trailing
    refine ⟨p.field, parse?_encode_append h trailing, rfl, ?_⟩
    intro text
    have hdecode {bs : Bytes} (hbs : bs = Utf8.encode text) : Utf8.decode bs = text := by
      rw [hbs, Utf8.decode_encode]
    exact ⟨hdecode, hdecode, hdecode⟩
  · intro catalog baseTable baseName trailing trailing' q hq
    -- None of the three strings is part of what is kept.
    rw [parse?_encode_append h, parse?_encode_append hq]
    rfl
  · intro k hk
    exact Field.local_read.run?_take (reads_field h) hk

/-- The database is no valid text, the name is so long that its length takes a
marker and two digits, and the cut goes between the digits. -/
theorem parse?_of_parts_wide_name :
    let p : FieldPacket := {
      catalog := some [0x64, 0x65, 0x66], database := [0xFF], table := [0x74]
      baseTable := some [0x74], name := List.replicate 251 0x63, baseName := none
      blockLength := 12, charset := 33, columnLength := 11, typeCode := 0xFD, flags := 1
      decimals := 0 }
    let bare := { p with catalog := none, baseTable := none, baseName := some [0xFB] }
    p.Writable ∧ bare.Writable
      ∧ (Field.parse? (p.encode ++ [0, 0])).map (fun f => (f.database, f.table, f.type))
        = some ("\uFFFD", "t", .varString)
      ∧ Field.parse? bare.encode = Field.parse? (p.encode ++ [0, 0])
      ∧ p.encode.take 12 = [3, 0x64, 0x65, 0x66, 1, 0xFF, 1, 0x74, 1, 0x74, 0xFC, 0xFB]
      ∧ Field.parse? (p.encode.take 12) = none := by
  intro p bare
  have hp : p.Writable := .of_length_encode (by decide +kernel)
  have hbare : bare.Writable := .of_length_encode (by decide +kernel)
  obtain ⟨hread, hreplaced, hcut⟩ := parse?_of_parts p hp
  obtain ⟨_, hf, rfl, -⟩ := hread [0, 0]
  have hsame := hreplaced none none (some [0xFB]) [0, 0] [] hbare
  rw [List.append_nil] at hsame
  have hshort : 12 < p.encode.length := by decide +kernel
  refine ⟨hp, hbare, ?_, hsame, ?_, hcut 12 hshort⟩
  · rw [hf]
    decide +kernel
  · decide +kernel

end FieldPacket

end SqlWire
