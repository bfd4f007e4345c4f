import SqlWire.Proofs.Reads.Local

/-!
# Confirmations are read whole or not at all

An OK packet is a marker, two length-coded numbers, two words and a text without an
end of its own. The marker is passed over by looking at it, and a count of zero is
the same byte; only the first of the two is taken for the marker
(`OkReply.run?_encode`). A packet that ends before its second word does is not read,
wherever it is cut (`OkReply.run?_take`): between marker and text there are only
steps that look no further than they take (`OkReply.numbers`).
-/

set_option autoImplicit false

namespace SqlWire.OkReply

open Reader SqlWire.Action

/-- Reads what stands between the marker and the text, and gives the confirmation
but for its text. These four fields are what a cut may break off; the marker may be
missing and the text may be of any length. -/
def numbers : Reader (String → OkReply) := do
  let affectedRows ← codedInt
  let lastInsertId ← codedInt
  let statusFlags ← word16
  let warnings ← word16
  return fun info => { affectedRows, lastInsertId, statusFlags, warnings, info }

/-- The bytes between the marker and the text, which are what `numbers` reads. -/
def encodeNumbers (r : OkReply) : Bytes :=
  LengthCoded.encode r.affectedRows ++ (LengthCoded.encode r.lastInsertId
    ++ (Bytes.ofNat 2 r.statusFlags.toNat ++ Bytes.ofNat 2 r.warnings.toNat))

/-- The text is all that follows the numbers, so the reader of a confirmation is one
of three steps. -/
theorem read_eq : read = do
    skipMarker marker
    let reply ← numbers
    return reply (← restText) := by
  simp only [read, numbers, bind_assoc, pure_bind]

/-- A confirmation is written in three pieces, which are those that it is read in. -/
theorem encode_eq (r : OkReply) :
    r.encode = marker :: (r.encodeNumbers ++ Utf8.encode r.info) := by
  simp only [encode, encodeNumbers, List.append_assoc]

/-- The numbers read as the server wrote them, whatever text is behind them. -/
theorem reads_numbers (r : OkReply) :
    Reads numbers (fun info => { r with info }) r.encodeNumbers := by
  refine (reads_codedInt r.affectedRows).bind ?_
  refine (reads_codedInt r.lastInsertId).bind ?_
  refine (reads_word16 r.statusFlags).bind ?_
  exact (reads_word16 r.warnings).bind_pure _

/-- The numbers are read by steps that look no further than they take. This does not
hold of the whole reader, which takes all the rest for its text. -/
theorem local_numbers : Local numbers := by
  refine local_codedInt.bind ?_
  intro affectedRows
  refine local_codedInt.bind ?_
  intro lastInsertId
  refine local_word16.bind ?_
  intro statusFlags
  refine local_word16.bind ?_
  intro warnings
  exact local_pure _

/-- A confirmation reads as the server wrote it. Its number of rows may be written
as the byte that the marker is: only the first byte is taken for one. -/
theorem run?_encode (r : OkReply) : read.run? r.encode = some r := by
  have hmarker (ahead : Bytes) :
      (skipMarker marker).run ⟨0, marker :: ahead⟩ = .ok () ⟨1, ahead⟩ :=
    reads_skipMarker marker 0 ahead
  have hnumbers (ahead : Bytes) := reads_numbers r 1 ahead
  simp only [Reader.run?, Cursor.ofBytes, encode_eq, read_eq, EStateM.run_bind, hmarker, hnumbers,
    restText, rest, EStateM.run_get, EStateM.run_modify, EStateM.run_pure, Utf8.decode_encode]

/-- Where some of the numbers are missing, it does not matter what is to follow
them. -/
theorem ends_numbers_bind_of_missing (r : OkReply) {l : Nat} (hl : l < r.encodeNumbers.length)
    (position : Nat) (next : (String → OkReply) → Reader OkReply) :
    Ends (numbers >>= next) ⟨position, r.encodeNumbers.take l⟩ (fun _ _ => False)
      (fun _ _ => True) := by
  refine (local_numbers.ends_take (reads_numbers r) hl position).bind ?_
  intro reply c hfalse
  exact hfalse.elim

/-- A confirmation that is cut short of its text is not read. The cut may come
before the marker, in which case there is nothing to pass over, or anywhere behind
it. -/
theorem run?_take (r : OkReply) {k : Nat}
    (hk : k + (Utf8.encode r.info).length < r.encode.length) :
    read.run? (r.encode.take k) = none := by
  have hfails : Ends read (.ofBytes (r.encode.take k)) (fun _ _ => False) (fun _ _ => True) := by
    rw [encode_eq, List.length_cons, List.length_append] at hk
    rw [encode_eq, read_eq, Cursor.ofBytes]
    cases k with
    | zero =>
      -- There is no marker to pass over, and nothing behind it either.
      have hnone : (skipMarker marker).run ⟨0, []⟩ = .ok () ⟨0, []⟩ := rfl
      have hnumbers : 0 < r.encodeNumbers.length := by
        simp only [encodeNumbers, List.length_append, Bytes.length_ofNat]
        omega
      rw [List.take_zero, ends_bind, Ends, hnone]
      exact r.ends_numbers_bind_of_missing hnumbers 0 _
    | succ k =>
      have hnumbers : k < r.encodeNumbers.length := by omega
      rw [List.take_succ_cons, List.take_append_of_le_length (Nat.le_of_lt hnumbers),
        ← List.singleton_append, (reads_skipMarker marker).ends_bind]
      exact r.ends_numbers_bind_of_missing hnumbers _ _
  rw [Reader.run?]
  cases hrun : read.run (.ofBytes (r.encode.take k)) with
  | ok reply c =>
    rw [Ends, hrun] at hfails
    exact hfails.elim
  | error e c => rfl

end SqlWire.OkReply
