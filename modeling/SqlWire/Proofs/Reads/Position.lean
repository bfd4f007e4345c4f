import SqlWire.Proofs.Reads.Moves
import SqlWire.Reader.Operation

/-!
# Where reading leaves the cursor

A program may take steps over a payload in any order, and go on when one of them
fails. `ReadStep.attempts` takes them so, and `ReadStep.attempts_sound` is what
holds of every one: the cursor stays within the payload and never goes back, what is
given is what the bytes between the two positions say (`ReadStep.Gives`), and a step
that fails leaves the cursor where it was, with two kinds of exception. A step that
refuses SQL NULL has read its marker by then, and a packet may break off behind any
of its fields (`ReadStep.Loses`).
-/

set_option autoImplicit false

namespace SqlWire

open SqlWire.Action

open Reader
open LengthCoded (Form CellForm nullMarker)

/-- What the bytes are that a step passes over when it succeeds, what it gives then,
and what is still ahead. The bytes determine the value, but not the other way round:
an integer has several forms, a terminated text may spell a character in bytes that
are no UTF-8, and what is passed over is not given at all. -/
inductive ReadStep.Gives : ReadStep → ReadValue → (bs ahead : Bytes) → Prop
  | byte (b : UInt8) {ahead : Bytes} : Gives .byte (.number b.toNat) [b] ahead
  | word16 {bs ahead : Bytes} (length : bs.length = 2) :
      Gives .word16 (.number (Bytes.toNat bs)) bs ahead
  | word32 {bs ahead : Bytes} (length : bs.length = 4) :
      Gives .word32 (.number (Bytes.toNat bs)) bs ahead
  | coded {value : LengthCoded} {bs ahead : Bytes} (form : IsCoded value bs) :
      Gives .coded (.coded value) bs ahead
  | codedInt {n : Nat} {bs ahead : Bytes} (form : Form n bs) : Gives .codedInt (.number n) bs ahead
  | cell {value : Option Bytes} {bs ahead : Bytes} (form : CellForm value bs) :
      Gives .cell (.cell value) bs ahead
  | codedText {content bs ahead : Bytes} (form : CellForm (some content) bs) :
      Gives .codedText (.text (Utf8.decode content)) bs ahead
  | skipCell {value : Option Bytes} {bs ahead : Bytes} (form : CellForm value bs) :
      Gives .skipCell .skipped bs ahead
  | terminatedText {content ahead : Bytes} (nonzero : 0 ∉ content) :
      Gives .terminatedText (.text (Utf8.decode content)) (content ++ [0]) ahead
  | text (bs : Bytes) {ahead : Bytes} : Gives (.text bs.length) (.text (Utf8.decode bs)) bs ahead
  | restText (bs : Bytes) : Gives .restText (.text (Utf8.decode bs)) bs []
  | bytes (bs : Bytes) {ahead : Bytes} : Gives (.bytes bs.length) (.bytes bs) bs ahead
  | rest (bs : Bytes) : Gives .rest (.bytes bs) bs []
  | skip (bs : Bytes) {ahead : Bytes} : Gives (.skip bs.length) .skipped bs ahead
  | okReply {reply : OkReply} {marker rows id status warnings info : Bytes}
      (marked : PassesMarker OkReply.marker marker (rows ++ (id ++ (status ++ (warnings ++ info)))))
      (affectedRows : Form reply.affectedRows.toNat rows)
      (lastInsertId : Form reply.lastInsertId.toNat id)
      (statusLength : status.length = 2)
      (statusFlags : reply.statusFlags.toNat = Bytes.toNat status)
      (warningsLength : warnings.length = 2) (count : reply.warnings.toNat = Bytes.toNat warnings)
      (text : reply.info = Utf8.decode info) :
      Gives .okReply (.okReply reply)
        (marker ++ (rows ++ (id ++ (status ++ (warnings ++ info))))) []
  | errReply {reply : ErrReply} {marker code state message : Bytes}
      (marked : PassesMarker ErrReply.marker marker (code ++ (state ++ message)))
      (codeLength : code.length = 2) (number : reply.code.toNat = Bytes.toNat code)
      (sqlState : (∃ letters, state = ErrReply.stateMarker :: letters
          ∧ letters.length = ErrReply.stateLength ∧ reply.sqlState = Utf8.decode letters)
        ∨ state = [] ∧ message.head? ≠ some ErrReply.stateMarker ∧ reply.sqlState = "")
      (text : reply.message = Utf8.decode message) :
      Gives .errReply (.errReply reply) (marker ++ (code ++ (state ++ message))) []
  | eofReply {reply : EofReply} {marker warnings status ahead : Bytes}
      (marked : PassesMarker EofReply.marker marker (warnings ++ (status ++ ahead)))
      (warningsLength : warnings.length = 2) (count : reply.warnings.toNat = Bytes.toNat warnings)
      (statusLength : status.length = 2)
      (statusFlags : reply.statusFlags.toNat = Bytes.toNat status) :
      Gives .eofReply (.eofReply reply) (marker ++ (warnings ++ status)) ahead

/-- What a step passes over when it fails. Of the single steps only the two that
refuse SQL NULL lose anything, and that is its marker. -/
def ReadStep.Loses : ReadStep → (bs ahead : Bytes) → Prop
  | codedInt | codedText => PassesMarker nullMarker
  | okReply | errReply | eofReply => Wanders
  | _ => Stays

/-- A confirmation may break off behind each of its fields. Where it does not, its
bytes are those of the fields one after the other, and its text is all the rest of
the payload. -/
theorem OkReply.moves_read :
    Moves read (fun reply => ReadStep.okReply.Gives (.okReply reply)) Wanders := by
  -- One step for each field, in the order of the layout.
  refine Moves.mono (.bind (moves_skipMarker marker) fun _ =>
    .bind moves_codedInt fun affectedRows => .bind moves_codedInt fun lastInsertId =>
    .bind moves_word16 fun statusFlags => .bind moves_word16 fun warnings =>
    .bind moves_restText fun info => moves_pure _)
    ?_ (fun _ _ _ => trivial)
  intro reply bs ahead h
  -- The pieces in the order of the fields, each with what its own reader says of it.
  obtain ⟨_, front, _, rfl, hfront, affectedRows, rows, _, rfl, hrows, lastInsertId, id, _, rfl,
    hid, statusFlags, status, _, rfl, hstatus, warnings, count, _, rfl, hcount, text, info, _, rfl,
    ⟨htext, hend⟩, rfl, rfl⟩ := h
  obtain rfl : ahead = [] := hend
  simp only [List.append_nil] at hfront ⊢
  obtain ⟨hstatusLength, hstatusValue⟩ := hstatus
  obtain ⟨hcountLength, hcountValue⟩ := hcount
  exact .okReply hfront hrows hid hstatusLength hstatusValue hcountLength hcountValue htext

namespace ErrReply

/-- Reads the SQLSTATE, where there is one. In the packet's reader this is a
condition in the middle of a row of steps; as a reader of its own it has a law of
its own. -/
def readState : Reader String := do
  if (← get).peek = some stateMarker then
    Reader.skipMarker stateMarker
    Reader.text stateLength
  else pure ""

/-- The reader of a refusal in four steps. Its state is one of them, so that each
can be given a law. -/
theorem read_eq : read = do
    Reader.skipMarker marker
    let code ← Reader.word16
    let sqlState ← readState
    let message ← Reader.restText
    return { code, sqlState, message } := by
  simp only [read, readState, bind_assoc]
  refine bind_congr fun _ => bind_congr fun code => bind_congr ?_
  intro c
  split
  · rw [bind_assoc]
  · rfl

/-- The state is told from its marker, which is read with it. Without the marker
there is no state, and what is ahead begins with some other byte, or is empty. -/
theorem moves_readState : Moves readState
    (fun sqlState bs ahead => (∃ letters, bs = stateMarker :: letters
        ∧ letters.length = stateLength ∧ sqlState = Utf8.decode letters)
      ∨ bs = [] ∧ ahead.head? ≠ some stateMarker ∧ sqlState = "") Wanders := by
  intro c
  rw [readState, ends_bind, ends_get]
  split
  · next hpeek =>
    have hstate := (moves_skipMarker stateMarker).bind fun _ => moves_text stateLength
    refine (hstate c).mono ?_ ?_
    · intro sqlState c' h
      obtain ⟨bs, hmoved, _, front, letters, rfl, hfront, hlength, rfl⟩ := h
      rcases hfront with rfl | ⟨rfl, hhead⟩
      · exact ⟨_, hmoved, .inl ⟨letters, rfl, hlength, rfl⟩⟩
      · -- The marker is ahead, so it has not been missed.
        rw [Cursor.peek, hmoved.rest] at hpeek
        exact absurd hpeek hhead
    · intro _ c' h
      obtain ⟨bs, hmoved, -⟩ := h
      exact ⟨bs, hmoved, trivial⟩
  · next hpeek => exact ⟨[], .refl c, .inr ⟨rfl, hpeek, rfl⟩⟩

/-- A refusal may break off in its marker, its code or its state. Where it does not,
all that follows these is its text. -/
theorem moves_read :
    Moves read (fun reply => ReadStep.errReply.Gives (.errReply reply)) Wanders := by
  rw [read_eq]
  refine Moves.mono (.bind (moves_skipMarker marker) fun _ => .bind moves_word16 fun code =>
    .bind moves_readState fun sqlState => .bind moves_restText fun message => moves_pure _)
    ?_ (fun _ _ _ => trivial)
  intro reply bs ahead h
  obtain ⟨_, front, _, rfl, hfront, code, number, _, rfl, hnumber, sqlState, state, _, rfl, hstate,
    text, message, _, rfl, ⟨htext, hend⟩, rfl, rfl⟩ := h
  obtain rfl : ahead = [] := hend
  simp only [List.append_nil] at hfront hstate ⊢
  obtain ⟨hlength, hvalue⟩ := hnumber
  exact .errReply hfront hlength hvalue hstate htext

end ErrReply

/-- An end marker is made of two numbers behind its marker. It is the one packet
that may have bytes behind it that its reader leaves. -/
theorem EofReply.moves_read :
    Moves read (fun reply => ReadStep.eofReply.Gives (.eofReply reply)) Wanders := by
  refine Moves.mono (.bind (moves_skipMarker marker) fun _ => .bind moves_word16 fun warnings =>
    .bind moves_word16 fun statusFlags => moves_pure _)
    ?_ (fun _ _ _ => trivial)
  intro reply bs ahead h
  obtain ⟨_, front, _, rfl, hfront, warnings, count, _, rfl, hcount, statusFlags, status, _, rfl,
    hstatus, rfl, rfl⟩ := h
  simp only [List.append_nil, List.append_assoc] at hfront ⊢
  obtain ⟨hcountLength, hcountValue⟩ := hcount
  obtain ⟨hstatusLength, hstatusValue⟩ := hstatus
  exact .eofReply hfront hcountLength hcountValue hstatusLength hstatusValue

namespace ReadStep

/-- Every step passes over what it gives, and where it fails, over no more than it
may lose. There is one case for each step that a program can take, and none of them
needs to know which steps came before. -/
theorem moves_perform (step : ReadStep) : Moves step.perform step.Gives step.Loses := by
  cases step with
  | byte =>
    refine moves_byte.bind_pure _ ?_
    intro b bs ahead h
    rw [h]
    exact .byte b
  | word16 =>
    refine moves_word16.bind_pure _ ?_
    intro n bs ahead h
    obtain ⟨hlength, hvalue⟩ := h
    rw [hvalue]
    exact .word16 hlength
  | word32 =>
    refine moves_word32.bind_pure _ ?_
    intro n bs ahead h
    obtain ⟨hlength, hvalue⟩ := h
    rw [hvalue]
    exact .word32 hlength
  | coded =>
    -- Where this fails, all that counts here is that it stays.
    have hcoded : Moves Reader.coded (fun value bs _ => IsCoded value bs) Stays :=
      moves_coded.mono (fun _ _ _ h => h) (fun _ _ h => h.1)
    refine hcoded.bind_pure _ ?_
    intro value bs ahead hform
    exact .coded hform
  | codedInt =>
    refine moves_codedInt.bind_pure _ ?_
    intro n bs ahead hform
    exact .codedInt hform
  | cell =>
    have hcell : Moves Reader.cell (fun value bs _ => CellForm value bs) Stays :=
      moves_cell.mono (fun _ _ _ h => h) (fun _ _ h => h.1)
    refine hcell.bind_pure _ ?_
    intro value bs ahead hform
    exact .cell hform
  | codedText =>
    refine moves_codedText.bind_pure _ ?_
    intro text bs ahead h
    obtain ⟨content, hform, rfl⟩ := h
    exact .codedText hform
  | skipCell =>
    refine moves_skipCell.bind_pure _ ?_
    intro _ bs ahead h
    obtain ⟨value, hform⟩ := h
    exact .skipCell hform
  | terminatedText =>
    refine moves_terminatedText.bind_pure _ ?_
    intro text bs ahead h
    obtain ⟨content, rfl, hcontent, rfl⟩ := h
    exact .terminatedText hcontent
  | text length =>
    refine (moves_text length).bind_pure _ ?_
    intro text bs ahead h
    obtain ⟨rfl, rfl⟩ := h
    exact .text bs
  | restText =>
    refine moves_restText.bind_pure _ ?_
    intro text bs ahead h
    obtain ⟨rfl, rfl⟩ := h
    exact .restText bs
  | bytes length =>
    refine (moves_bytes length).bind_pure _ ?_
    intro taken bs ahead h
    obtain ⟨rfl, rfl⟩ := h
    exact .bytes taken
  | rest =>
    refine moves_rest.bind_pure _ ?_
    intro taken bs ahead h
    obtain ⟨rfl, rfl⟩ := h
    exact .rest taken
  | skip length =>
    refine (moves_skip length).bind_pure _ ?_
    intro _ bs ahead h
    obtain rfl := h
    exact .skip bs
  -- What the packets give has been said of their readers above.
  | okReply =>
    refine OkReply.moves_read.bind_pure _ ?_
    intro reply bs ahead hgives
    exact hgives
  | errReply =>
    refine ErrReply.moves_read.bind_pure _ ?_
    intro reply bs ahead hgives
    exact hgives
  | eofReply =>
    refine EofReply.moves_read.bind_pure _ ?_
    intro reply bs ahead hgives
    exact hgives

/-! ### Steps one after another -/

/-- A step that has been taken: where the cursor was before it, what it gave, if it
succeeded, and where the cursor is after it. -/
structure Attempt where
  step : ReadStep
  before : Cursor
  value? : Option ReadValue
  after : Cursor
deriving DecidableEq, Repr

/-- Takes the step, and keeps what it gave or that it failed, with the cursor on
both sides. -/
def attempt (step : ReadStep) (c : Cursor) : Attempt :=
  match step.perform.run c with
  | .ok value c' => ⟨step, c, some value, c'⟩
  | .error _ c' => ⟨step, c, none, c'⟩

/-- An attempt begins where the cursor is. It is kept in the record so that a
failure can be told from it. -/
@[simp] theorem attempt_before (step : ReadStep) (c : Cursor) : (step.attempt c).before = c := by
  unfold attempt
  split <;> rfl

/-- Takes the steps in turn, each from where the one before it has left the cursor,
and goes on when one fails. -/
def attempts : List ReadStep → Cursor → List Attempt
  | [], _ => []
  | step :: steps, c => step.attempt c :: attempts steps (step.attempt c).after

/-- The step either succeeds or does nothing. The other steps are the two that
refuse SQL NULL, those that take all the rest, and the packets, which are made of
several steps. Taking all the rest never fails, so nothing needs to be said of it. -/
def IsAtomic : ReadStep → Prop
  | byte | word16 | word32 | bytes _ | text _ | terminatedText | skip _ | coded | cell | skipCell =>
    True
  | codedInt | codedText | rest | restText | okReply | errReply | eofReply => False

end ReadStep

namespace Cursor

/-- The cursor stands somewhere in the data, or at the end of it. What can be asked
of it is then said in terms of the data. -/
structure Within (data : Bytes) (c : Cursor) : Prop where
  position_le : c.position ≤ data.length
  remaining_add_position : c.remaining + c.position = data.length
  peek_eq : c.peek = data[c.position]?
  isEmpty_iff : c.isEmpty = true ↔ c.peek = none

variable {data front bs : Bytes} {c c' : Cursor}

/-- A cursor that has been moved over a part of the data is within the data. That
the position, the bytes left over and the next byte agree with one another is all in
this one condition, so they need not be carried along one by one. -/
theorem Moved.within (h : (ofBytes data).Moved front c) : c.Within data := by
  have hdata : data = front ++ c.rest := h.rest
  have hposition : c.position = front.length := by simpa [ofBytes] using h.position
  constructor
  · simp [hdata, hposition]
  · simp [hdata, hposition, remaining, Nat.add_comm]
  · rw [hdata, hposition, List.getElem?_append_right (Nat.le_refl _), Nat.sub_self,
      ← List.head?_eq_getElem?, peek]
  · simp [isEmpty, peek]

/-- What a cursor has been moved over is the data between the two positions, and
what is ahead is the data from the second one on. -/
theorem Moved.slice_eq (h : (ofBytes data).Moved front c) (h' : c.Moved bs c') :
    data.slice c.position c'.position = bs ∧ data.drop c'.position = c'.rest := by
  have hdata : data = front ++ (bs ++ c'.rest) := by
    rw [← h'.rest]
    exact h.rest
  have hposition : c.position = front.length := by simpa [ofBytes] using h.position
  have hposition' : c'.position = front.length + bs.length := by rw [h'.position, hposition]
  constructor
  · rw [Bytes.slice, hposition, hposition', hdata, List.drop_left, Nat.add_sub_cancel_left,
      List.take_left]
  · rw [hposition', hdata, ← List.append_assoc, ← List.length_append, List.drop_left]

/-- Where a marker may have been passed over, the byte that was next tells whether
it was. So the position behind a step that refuses SQL NULL can be told from the
data alone. -/
theorem Moved.position_of_passesMarker {marker : UInt8} (h : c.Moved bs c')
    (hmarker : PassesMarker marker bs c'.rest) :
    c'.position = if c.peek = some marker then c.position + 1 else c.position := by
  rw [peek, h.rest, h.position]
  rcases hmarker with rfl | ⟨rfl, hhead⟩
  · rw [List.singleton_append, List.head?_cons, if_pos rfl, List.length_singleton]
  · rw [List.nil_append, if_neg hhead, List.length_nil, Nat.add_zero]

end Cursor

namespace ReadStep

/-- A step over some data keeps to it, goes by nothing but the bytes that it passes
over, and tells by the position whether it has read anything. -/
structure Attempt.Sound (data : Bytes) (a : Attempt) : Prop where
  before : a.before.Within data
  after : a.after.Within data
  forward : a.before.position ≤ a.after.position
  /-- What is given is what the data between the positions says. -/
  gives : ∀ value, a.value? = some value → a.step.Gives value
    (data.slice a.before.position a.after.position) (data.drop a.after.position)
  stays : a.value? = none → a.step.IsAtomic → a.after.position = a.before.position
  /-- Only the marker of SQL NULL is read by a step that refuses it. -/
  passesNull : a.value? = none → a.step = .codedInt ∨ a.step = .codedText →
    a.after.position = if data[a.before.position]? = some nullMarker then a.before.position + 1
      else a.before.position

variable {data front : Bytes} {c : Cursor}

/-- Such a step loses nothing when it fails, so the next attempt begins where it
began. -/
theorem IsAtomic.eq_nil {step : ReadStep} {bs ahead : Bytes} (h : step.IsAtomic)
    (hlost : step.Loses bs ahead) : bs = [] := by
  cases step <;> first | exact hlost | exact h.elim

/-- One step from anywhere in the data, whatever becomes of it. The cursor that it
leaves is again one that has been moved from the beginning, so the next step can be
taken from there. -/
theorem attempt_sound (h : (Cursor.ofBytes data).Moved front c) (step : ReadStep) :
    (step.attempt c).Sound data
      ∧ ∃ bs, (Cursor.ofBytes data).Moved (front ++ bs) (step.attempt c).after := by
  have hend := step.moves_perform c
  cases hrun : step.perform.run c with
  | ok value c' =>
    obtain ⟨bs, hmoved, hgives⟩ := hend.ok_of_run hrun
    obtain ⟨hslice, hahead⟩ := h.slice_eq hmoved
    have hafter : (Cursor.ofBytes data).Moved (front ++ bs) c' := h.trans hmoved
    rw [attempt, hrun]
    refine ⟨?_, bs, hafter⟩
    -- The last two fields are about failures, and this is none.
    exact {
      before := h.within
      after := hafter.within
      forward := hmoved.position_le
      gives := by
        intro given hgiven
        obtain rfl : value = given := Option.some.inj hgiven
        rw [hslice, hahead]
        exact hgives
      stays := nofun
      passesNull := nofun }
  | error e c' =>
    obtain ⟨bs, hmoved, hlost⟩ := hend.error_of_run hrun
    have hafter : (Cursor.ofBytes data).Moved (front ++ bs) c' := h.trans hmoved
    rw [attempt, hrun]
    refine ⟨?_, bs, hafter⟩
    exact {
      before := h.within
      after := hafter.within
      forward := hmoved.position_le
      gives := nofun
      stays := by
        intro _ hatomic
        rw [hmoved.position, hatomic.eq_nil hlost]
        rfl
      passesNull := by
        intro _ hstep
        have hmarker : PassesMarker nullMarker bs c'.rest := by
          rcases hstep with rfl | rfl
          · exact hlost
          · exact hlost
        show c'.position = if data[c.position]? = some nullMarker then _ else _
        rw [← h.within.peek_eq]
        exact hmoved.position_of_passesMarker hmarker }

/-- Steps one after another, from anywhere in the data. The induction is on the
steps, with the cursor left open, since each step begins where the one before it has
left it. -/
theorem attempts_sound_of_moved (h : (Cursor.ofBytes data).Moved front c) (steps : List ReadStep) :
    (∀ a ∈ attempts steps c, a.Sound data ∧ c.position ≤ a.before.position)
      ∧ (attempts steps c).Pairwise (fun a b => a.after.position ≤ b.before.position) := by
  induction steps generalizing c front with
  | nil => exact ⟨nofun, .nil⟩
  | cons step steps ih =>
    obtain ⟨hsound, bs, hmoved⟩ := attempt_sound h step
    obtain ⟨hall, hpairs⟩ := ih hmoved
    -- The first step begins at the cursor, and the others no earlier than it ends.
    have hforward : c.position ≤ (step.attempt c).after.position := by
      simpa using hsound.forward
    constructor
    · intro a ha
      rcases List.mem_cons.mp ha with rfl | ha
      · exact ⟨hsound, by simp⟩
      · obtain ⟨ha, hle⟩ := hall a ha
        exact ⟨ha, Nat.le_trans hforward hle⟩
    · refine .cons ?_ hpairs
      intro b hb
      exact (hall b hb).2

/-- Steps taken in any order, from the beginning of the data and whatever becomes of
them, keep the cursor within the data. Its position never decreases, and the bytes
ahead make up the length with it. What a step gives is what the bytes say that it
has passed over. A step that fails leaves the position as it was, unless it is made
of several steps itself, or refuses SQL NULL: such a step moves on by one byte if
the one at the position is the marker of SQL NULL, and by none otherwise. -/
theorem attempts_sound (data : Bytes) (steps : List ReadStep) :
    (∀ a ∈ attempts steps (.ofBytes data), a.Sound data)
      ∧ (attempts steps (.ofBytes data)).Pairwise
        (fun a b => a.after.position ≤ b.before.position) := by
  obtain ⟨hall, hpairs⟩ := attempts_sound_of_moved (.refl (.ofBytes data)) steps
  refine ⟨?_, hpairs⟩
  intro a ha
  exact (hall a ha).1

/-- Lengths that no data has, SQL NULL where it is refused and where it is not, a
text without an end, and a confirmation that breaks off behind its first number. -/
theorem attempts_sound_of_refused_null :
    let data : Bytes := [0xFB, 1, 0x61, 0xFB, 0xFB, 0, 7, 0xFB]
    let steps : List ReadStep := [.skip 0xFFFFFFFFFFFFFFFF, .codedInt, .cell, .codedText, .codedInt,
      .bytes 0xFFFFFFFFFFFFFFFF, .okReply, .terminatedText]
    (attempts steps (.ofBytes data)).map (fun a => (a.before.position, a.value?, a.after.position))
        = [(0, none, 0), (0, none, 1), (1, some (.cell (some [0x61])), 3), (3, none, 4),
          (4, none, 5), (5, none, 5), (5, none, 8), (8, none, 8)]
      ∧ ∀ a ∈ attempts steps (.ofBytes data), a.Sound data := by
  intro data steps
  have hsound := attempts_sound data steps
  refine ⟨?_, hsound.1⟩
  decide +kernel

end ReadStep

end SqlWire
