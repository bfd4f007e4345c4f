import SqlWire.Proofs.Login
import SqlWire.Reader.Operation
import SqlWire.Writer

/-!
# Pieces are read back in the order in which they were written

Each kind of piece has a step that reads it back: `Piece.step` names it and
`Piece.value` what it must give. A single piece is read whatever stands behind it
(`Piece.reads_encode`), so a sequence of pieces is read piece by piece, and the
cursor stands after each step where the writer stood after the piece
(`Writer.run_follow_written`).

Two kinds of piece come with a condition. A text with a NUL in it would end early,
and the length of a string is written as a number of 64 bits.
-/

set_option autoImplicit false

namespace SqlWire

open Reader

namespace Piece

/-- The step that reads a piece back. Zero bytes have no step of their own, and are
read as bytes. -/
def step : Piece → ReadStep
  | byte _ => .byte
  | word16 _ => .word16
  | word32 _ => .word32
  | coded _ => .codedInt
  | codedBytes _ => .cell
  | terminatedText _ => .terminatedText
  | bytes bs => .bytes bs.length
  | zeros count => .bytes count

/-- What that step must give. A number is given without its width, since that is a
matter of how it was written. -/
def value : Piece → ReadValue
  | byte b => .number b.toNat
  | word16 n => .number n.toNat
  | word32 n => .number n.toNat
  | coded n => .number n.toNat
  | codedBytes bs => .cell (some bs)
  | terminatedText text => .text text
  | bytes bs => .bytes bs
  | zeros count => .bytes (List.replicate count 0)

/-- The piece says what it is meant to: a text has no NUL, and the length of a
string is one that can be written. -/
def IsReadable : Piece → Prop
  | codedBytes bs => bs.length < UInt64.size
  | terminatedText text => '\x00' ∉ text.toList
  | _ => True

/-- Whether a piece can be read back can be computed. -/
instance : DecidablePred IsReadable
  | codedBytes bs => inferInstanceAs (Decidable (bs.length < UInt64.size))
  | terminatedText text => inferInstanceAs (Decidable ('\x00' ∉ text.toList))
  | byte _ | word16 _ | word32 _ | coded _ | bytes _ | zeros _ => .isTrue trivial

/-- A piece is read back as it was written, wherever it stands. There is one case
for each kind of piece, and each follows from the law of the step that reads it. -/
theorem reads_encode {p : Piece} (h : p.IsReadable) : Reads p.step.perform p.value p.encode := by
  cases p with
  | byte b => exact (reads_byte b).bind_pure _
  | word16 n => exact (reads_word16 n).bind_pure _
  | word32 n => exact (reads_word32 n).bind_pure _
  | coded n => exact (reads_codedInt n).bind_pure _
  | codedBytes bs =>
    have hlength : ∀ content ∈ some bs, content.length < UInt64.size := by
      intro content hcontent
      rw [← Option.mem_some.mp hcontent]
      exact h
    exact (reads_cell hlength).bind_pure _
  | terminatedText text => exact (reads_text h).bind_pure _
  | bytes bs => exact (reads_bytes rfl).bind_pure _
  | zeros count => exact (reads_bytes List.length_replicate).bind_pure _

end Piece

/-- Takes the steps in turn, and tells of each what it gave and where it left the
cursor. -/
def ReadStep.follow : List ReadStep → Reader (List (ReadValue × Nat))
  | [] => return []
  | step :: steps => do
    let value ← step.perform
    let position := (← get).position
    return (value, position) :: (← follow steps)

namespace Writer

/-- Writes the pieces in turn, each behind what is written. -/
def pushAll (w : Writer) (pieces : List Piece) : Writer :=
  pieces.foldl push w

/-- What is to be read back of pieces that are written in turn: the value of each,
and the size of the writer behind it. The sizes are the positions at which a reader
must stand, which is how both are compared. -/
def marks (w : Writer) : List Piece → List (ReadValue × Nat)
  | [] => []
  | p :: pieces => (p.value, (w.push p).size) :: (w.push p).marks pieces

/-- What has been written are the pieces one after the other, behind what was there
before. -/
theorem written_pushAll (w : Writer) (pieces : List Piece) :
    (w.pushAll pieces).written = w.written ++ pieces.flatMap Piece.encode := by
  induction pieces generalizing w with
  | nil => exact (List.append_nil _).symm
  | cons p pieces ih =>
    show ((w.push p).pushAll pieces).written = _
    rw [ih, push, List.flatMap_cons, List.append_assoc]

/-- A writer grows by the size of the piece. So the position of a piece is the size
of the writer before it. -/
theorem size_push (w : Writer) (p : Piece) : (w.push p).size = w.size + p.encode.length :=
  List.length_append

/-- A cursor that stands where the writer stood reads the pieces that were written
from there on. The induction is on the pieces, with the writer left open, because it
grows with each of them. -/
theorem run_follow_flatMap {pieces : List Piece} (h : ∀ p ∈ pieces, p.IsReadable) (w : Writer)
    (suffix : Bytes) :
    (ReadStep.follow (pieces.map Piece.step)).run
        ⟨w.size, pieces.flatMap Piece.encode ++ suffix⟩
      = .ok (w.marks pieces) ⟨(w.pushAll pieces).size, suffix⟩ := by
  induction pieces generalizing w with
  | nil => rfl
  | cons p pieces ih =>
    obtain ⟨hp, hpieces⟩ := List.forall_mem_cons.mp h
    -- The piece ends where the writer stands after it, and that is where the next one is read.
    have hread := Piece.reads_encode hp w.size (pieces.flatMap Piece.encode ++ suffix)
    rw [← size_push] at hread
    simp only [List.map_cons, List.flatMap_cons, List.append_assoc, ReadStep.follow,
      EStateM.run_bind, hread, EStateM.run_get, ih hpieces, EStateM.run_pure]
    rfl

/-- Whatever is written piece by piece is read back piece by piece. The steps that
belong to the pieces give their values in order, the cursor stands after each step
as far in as the writer had written after the piece, and at the end just what
follows the written bytes is ahead. -/
theorem run_follow_written {pieces : List Piece} (h : ∀ p ∈ pieces, p.IsReadable)
    (suffix : Bytes) :
    (ReadStep.follow (pieces.map Piece.step)).run
        (.ofBytes ((empty.pushAll pieces).written ++ suffix))
      = .ok (empty.marks pieces) ⟨(empty.pushAll pieces).size, suffix⟩ := by
  have hwritten : (empty.pushAll pieces).written = pieces.flatMap Piece.encode :=
    written_pushAll empty pieces
  rw [hwritten]
  exact run_follow_flatMap h empty suffix

/-- One piece of each kind, among them a number and a string that need a wide length
and a string that looks like the marker of SQL NULL, with a marker behind them. -/
theorem run_follow_written_of_each_kind :
    let pieces : List Piece := [.byte 0xFB, .word16 0xFEFF, .word32 0x12345678, .coded 0x1000000,
      .codedBytes [], .codedBytes (List.replicate 251 0xFB), .terminatedText "né", .bytes [0, 0xFF],
      .zeros 2]
    (∀ p ∈ pieces, p.IsReadable)
      ∧ (ReadStep.follow (pieces.map Piece.step)).run
          (.ofBytes ((empty.pushAll pieces).written ++ [0xFB]))
        = .ok [(.number 0xFB, 1), (.number 0xFEFF, 3), (.number 0x12345678, 7),
            (.number 0x1000000, 16), (.cell (some []), 17),
            (.cell (some (List.replicate 251 0xFB)), 271), (.text "né", 275),
            (.bytes [0, 0xFF], 277), (.bytes [0, 0], 279)] ⟨279, [0xFB]⟩ := by
  intro pieces
  have hreadable : ∀ p ∈ pieces, p.IsReadable := by decide +kernel
  have hmarks : empty.marks pieces = [(.number 0xFB, 1), (.number 0xFEFF, 3),
      (.number 0x12345678, 7), (.number 0x1000000, 16), (.cell (some []), 17),
      (.cell (some (List.replicate 251 0xFB)), 271), (.text "né", 275), (.bytes [0, 0xFF], 277),
      (.bytes [0, 0], 279)] := by decide +kernel
  have hsize : (empty.pushAll pieces).size = 279 := by decide +kernel
  have hrun := run_follow_written hreadable [0xFB]
  rw [hmarks, hsize] at hrun
  exact ⟨hreadable, hrun⟩

end Writer

end SqlWire
