import SqlWire.Proofs.Ends
import SqlWire.Proofs.LengthCoded
import SqlWire.Proofs.Reads
import SqlWire.Row

/-!
# A row is a run of cells

A row has no count of its cells: it ends where its payload ends. That works because
no cell is written as nothing, so that a payload with cells still ahead is not used
up.

`Splits` cuts a payload into cells, each in one of its forms. There is one way at
most (`Splits.unique`), and where there is none, some front of the payload is a run
of cells and what follows it begins with no form of a cell (`exists_front`). Both
cases are read to their end: the cells are taken off one by one, and the bytes
ahead, of which each cell has one at least, bound the number of rounds
(`run_drain_of_splits`). Hence `values` gives the cells of a payload that is a run
of as many as the header announced, and finds any other row in breach of the
protocol (`run_values_of_splits`, `run_values_of_blocked`).
-/

set_option autoImplicit false

namespace SqlWire.Row

open SqlWire.Action LengthCoded

/-- The text of a cell, as far as its bytes are one. SQL NULL has no text, and bytes
that are no UTF-8 have one with replacement characters in it. -/
def texts (cells : List (Option Bytes)) : List (Option String) :=
  cells.map (Option.map Utf8.decode)

/-! ### Runs of cells -/

/-- The bytes are a run of cells: each of the parts is a cell with the form in which
it is written, and the forms follow each other. A cell may be written in several
forms, so the forms are kept beside the cells. -/
inductive Splits : Bytes → (parts : List (Option Bytes × Bytes)) → Prop
  | nil : Splits [] []
  | cons {cell : Option Bytes} {form rest : Bytes} {parts : List (Option Bytes × Bytes)}
    (hform : CellForm cell form) (hrest : Splits rest parts) :
    Splits (form ++ rest) ((cell, form) :: parts)

/-- The bytes begin with no form of a cell, though they are not used up. Reading
cells comes to a halt at such bytes. -/
def Blocked (bs : Bytes) : Prop :=
  bs ≠ [] ∧ decodeCell? bs = none

variable {bs form front rest tail payload : Bytes} {cell : Option Bytes}
  {parts parts' : List (Option Bytes × Bytes)} {columnCount position : Nat}

/-- No bytes are a run of no cells, and of no others, since every cell takes a byte. -/
theorem splits_nil_iff : Splits [] parts ↔ parts = [] := by
  constructor
  · intro h
    generalize hbs : ([] : Bytes) = bs at h
    cases h with
    | nil => rfl
    | cons hform hrest => exact absurd hbs.symm (hform.append_ne_nil _)
  · rintro rfl
    exact .nil

/-- Behind the form of a cell the run goes on with the other parts. The form at the
front determines the cell, so a run of cells can be taken apart from its front in
one way only. -/
theorem splits_append_iff (hform : CellForm cell form) :
    Splits (form ++ rest) parts ↔ ∃ behind, parts = (cell, form) :: behind ∧ Splits rest behind := by
  constructor
  · intro h
    generalize hbs : form ++ rest = bs at h
    cases h with
    | nil => exact absurd hbs (hform.append_ne_nil _)
    | cons hform' hrest =>
      obtain ⟨rfl, rfl, rfl⟩ := hform.eq_of_append_eq hform' hbs
      exact ⟨_, rfl, hrest⟩
  · rintro ⟨behind, rfl, hrest⟩
    exact .cons hform hrest

/-- Bytes are a run of cells in one way at most. The induction is on one of the two
ways, and each of its cells is also the first one of the other. -/
theorem Splits.unique (h : Splits bs parts) (h' : Splits bs parts') : parts = parts' := by
  induction h generalizing parts' with
  | nil => exact (splits_nil_iff.mp h').symm
  | cons hform hrest ih =>
    obtain ⟨behind, rfl, hbehind⟩ := (splits_append_iff hform).mp h'
    rw [ih hbehind]

/-- A run of cells in front of bytes that begin with none cannot be continued,
however these bytes are cut. -/
theorem Splits.not_splits_append (h : Splits front parts) (hblocked : Blocked tail) :
    ¬ Splits (front ++ tail) parts' := by
  induction h generalizing parts' with
  | nil =>
    rw [List.nil_append]
    intro hsplits
    obtain ⟨hnonempty, hnone⟩ := hblocked
    cases hsplits with
    | nil => exact hnonempty rfl
    | @cons _ _ rest _ hform _ =>
      -- A cell of the other run would be one that cannot be decoded here.
      rw [hform.decodeCell?_append rest] at hnone
      cases hnone
  | cons hform hrest ih =>
    rw [List.append_assoc, splits_append_iff hform]
    rintro ⟨behind, -, hbehind⟩
    exact ih hbehind

/-- Any bytes begin with a run of cells that ends with them or cannot be continued.
There is no third case, which is what makes the outcome of reading all columns
depend on the bytes alone. -/
theorem exists_front (bs : Bytes) :
    ∃ front tail parts, bs = front ++ tail ∧ Splits front parts ∧ (tail = [] ∨ Blocked tail) := by
  -- What stands behind a cell is shorter, so this goes by the number of bytes.
  induction hn : bs.length using Nat.strongRecOn generalizing bs with
  | _ n ih =>
    by_cases hempty : bs = []
    · exact ⟨[], [], [], hempty, .nil, .inl rfl⟩
    cases hdecode : decodeCell? bs with
    | none => exact ⟨[], bs, [], rfl, .nil, .inr ⟨hempty, hdecode⟩⟩
    | some x =>
      obtain ⟨cell, used⟩ := x
      obtain ⟨form, rest, hform, rfl, -⟩ := decodeCell?_eq_some_iff.mp hdecode
      have hpos := hform.length_pos
      rw [List.length_append] at hn
      obtain ⟨front, tail, parts, rfl, hparts, htail⟩ := ih rest.length (by omega) rest rfl
      refine ⟨form ++ front, tail, (cell, form) :: parts, ?_, .cons hform hparts, htail⟩
      rw [List.append_assoc]

/-! ### One column -/

/-- The row with the cursor behind some of the bytes ahead. Reading a cell leaves it
like this, whatever the cell is. -/
def passed (r : Row) (front rest : Bytes) : Row :=
  { r with cursor := ⟨r.cursor.position + front.length, rest⟩ }

/-- Going on twice is going on over both. So the position after some cells is told
by their lengths together. -/
theorem passed_passed (r : Row) (form front rest rest' : Bytes) :
    (r.passed form rest).passed front rest' = r.passed (form ++ front) rest' := by
  simp [passed, Nat.add_assoc]

/-- A row is used up when no bytes are ahead, which is not a matter of the columns
announced. -/
theorem isExhausted_eq_true_iff {r : Row} : r.isExhausted = true ↔ r.cursor.rest = [] :=
  List.isEmpty_iff

variable {r : Row}

/-- A row with a cell ahead is not used up, for no cell is empty. -/
theorem isExhausted_of_form (hform : CellForm cell form) (h : r.cursor.rest = form ++ rest) :
    r.isExhausted = false := by
  rw [Bool.eq_false_iff, ne_eq, isExhausted_eq_true_iff, h]
  exact hform.append_ne_nil rest

/-- The cell at the front is the next value, and the row goes on behind it. -/
theorem run_nextValue_of_form (hform : CellForm cell form) (h : r.cursor.rest = form ++ rest) :
    nextValue.run r = .ok cell (r.passed form rest) := by
  have hexhausted := isExhausted_of_form hform h
  have hdecode := hform.decodeCell?_append rest
  simp only [nextValue, EStateM.run_bind, EStateM.run_get, Action.run_ensure, hexhausted, if_true,
    Reader.cell, h, hdecode, EStateM.run_modify, EStateM.run_pure, EStateM.run_set, passed,
    Cursor.advance, List.drop_left]

/-- Where no cell stands, the row stays as it is, and what is wrong with it is that
it has been used up or that it begins with no form of a cell. -/
theorem run_nextValue_of_none (h : decodeCell? r.cursor.rest = none) :
    nextValue.run r = .error (r.breach (if r.isExhausted then "Row has no more columns"
      else "Truncated column value")) r := by
  cases hexhausted : r.isExhausted <;>
    simp [nextValue, EStateM.run_bind, hexhausted, Reader.cell, h]

/-- All that asking for the next column can do: the cursor goes on over a cell, or
the row stays as it is and is in breach of the protocol. -/
theorem nextValue_cases (r : Row) :
    (∃ cell form rest, CellForm cell form ∧ r.cursor.rest = form ++ rest
        ∧ nextValue.run r = .ok cell (r.passed form rest))
      ∨ ∃ message, nextValue.run r = .error (r.breach message) r := by
  cases hdecode : decodeCell? r.cursor.rest with
  | none => exact .inr ⟨_, run_nextValue_of_none hdecode⟩
  | some x =>
    obtain ⟨cell, used⟩ := x
    obtain ⟨form, rest, hform, heq, -⟩ := decodeCell?_eq_some_iff.mp hdecode
    exact .inl ⟨cell, form, rest, hform, heq, run_nextValue_of_form hform heq⟩

/-! ### All columns -/

/-- The loop takes off a run of cells, and then ends with the row or fails with what
is left. The induction is on the run of cells; each of them takes a byte of the fuel
at least, and what has been collected so far is left open. -/
theorem run_drain_of_splits {fuel : Nat} (h : Splits front parts) (htail : tail = [] ∨ Blocked tail)
    (hrest : r.cursor.rest = front ++ tail) (hfuel : r.cursor.remaining ≤ fuel)
    (done : List (Option String)) :
    (drain fuel done).run r
      = if tail = [] then .ok (done.reverse ++ texts (parts.map Prod.fst)) (r.passed front tail)
        else .error (r.breach "Truncated column value") (r.passed front tail) := by
  induction h generalizing r fuel done with
  | nil =>
    -- No cell is left in front, so the row ends here or goes on with bytes that begin none.
    have hpassed : r.passed [] tail = r := by
      cases r
      cases hrest
      rfl
    rw [hpassed]
    obtain rfl | hblocked := htail
    · have hexhausted : r.isExhausted = true := isExhausted_eq_true_iff.mpr hrest
      -- With fuel left the loop sees that the row is exhausted, without fuel it stops anyway.
      cases fuel <;> simp [drain, hexhausted, texts]
    · have hnone : decodeCell? r.cursor.rest = none := by
        rw [hrest]
        exact hblocked.2
      have hnext := run_nextValue_of_none hnone
      have hexhausted : r.isExhausted = false := by
        rw [Bool.eq_false_iff, ne_eq, isExhausted_eq_true_iff, hrest]
        exact hblocked.1
      have hpos : 0 < r.cursor.remaining := by
        rw [Cursor.remaining, hrest]
        exact List.length_pos_iff.mpr hblocked.1
      obtain ⟨fuel, rfl⟩ := Nat.exists_eq_add_one_of_ne_zero (by omega : fuel ≠ 0)
      rw [hexhausted] at hnext
      simp [drain, hexhausted, nextText, hnext, hblocked.1]
  | @cons cell form rest parts hform hsplits ih =>
    rw [List.append_assoc] at hrest
    have hpos := hform.length_pos
    have hremaining : r.cursor.remaining = form.length + (rest ++ tail).length := by
      rw [Cursor.remaining, hrest, List.length_append]
    obtain ⟨fuel, rfl⟩ := Nat.exists_eq_add_one_of_ne_zero (by omega : fuel ≠ 0)
    have hexhausted := isExhausted_of_form hform hrest
    have hnext := run_nextValue_of_form hform hrest
    -- The form has a byte at least, so one unit of fuel less is enough for what is behind it.
    have hfuel' : (r.passed form (rest ++ tail)).cursor.remaining ≤ fuel := by
      simp only [passed, Cursor.remaining]
      omega
    have hloop := ih rfl hfuel' (cell.map Utf8.decode :: done)
    rw [passed_passed] at hloop
    simp only [drain, EStateM.run_bind, EStateM.run_get, hexhausted, Bool.false_eq_true, if_false,
      nextText, hnext, EStateM.run_pure, hloop]
    simp [texts, breach, passed]

/-- A run of as many cells as were announced is read to its end, and one of any
other number is in breach of the protocol once it has been read. In both cases the
whole row is used up. -/
theorem run_values_of_splits (h : Splits r.cursor.rest parts) :
    values.run r
      = if parts.length = r.columnCount then
          .ok (texts (parts.map Prod.fst)) (r.passed r.cursor.rest [])
        else .error (r.breach
          s!"Row carries {parts.length} columns, header announced {r.columnCount}")
            (r.passed r.cursor.rest []) := by
  have hdrain := run_drain_of_splits h (.inl rfl) (List.append_nil _).symm (Nat.le_refl _) []
  have hlength : (texts (parts.map Prod.fst)).length = parts.length := by simp [texts]
  rw [if_pos rfl, List.reverse_nil, List.nil_append] at hdrain
  have hcount : (r.passed r.cursor.rest []).columnCount = r.columnCount := rfl
  simp only [values, EStateM.run_bind, EStateM.run_get, hdrain, Action.run_ensure, hlength, hcount]
  by_cases hsame : parts.length = r.columnCount
  · simp only [hsame, if_true]
    rfl
  · simp only [hsame, if_false]
    rfl

/-- A row with bytes ahead that are no run of cells fails where the run of cells
breaks off. It does not come to a count then. -/
theorem run_values_of_blocked (h : Splits front parts) (hblocked : Blocked tail)
    (hrest : r.cursor.rest = front ++ tail) :
    values.run r = .error (r.breach "Truncated column value") (r.passed front tail) := by
  have hdrain := run_drain_of_splits h (.inr hblocked) hrest (Nat.le_refl _) []
  rw [if_neg hblocked.1] at hdrain
  simp only [values, EStateM.run_bind, EStateM.run_get, hdrain]

/-- All that asking for the remaining columns can do. That the bytes ahead are not
the announced number of cells is stated beside the failure, so that the two cases
exclude each other. -/
theorem values_cases (r : Row) :
    (∃ parts, Splits r.cursor.rest parts ∧ parts.length = r.columnCount
        ∧ values.run r = .ok (texts (parts.map Prod.fst)) (r.passed r.cursor.rest []))
      ∨ (¬ ∃ parts, Splits r.cursor.rest parts ∧ parts.length = r.columnCount)
        ∧ ∃ message front tail, r.cursor.rest = front ++ tail
          ∧ values.run r = .error (r.breach message) (r.passed front tail) := by
  obtain ⟨front, tail, parts, hrest, hparts, htail⟩ := exists_front r.cursor.rest
  obtain rfl | hblocked := htail
  · rw [List.append_nil] at hrest
    rw [← hrest] at hparts
    have hrun := run_values_of_splits hparts
    split at hrun
    · next hlength => exact .inl ⟨parts, hparts, hlength, hrun⟩
    · next hlength =>
      refine .inr ⟨?_, _, r.cursor.rest, [], (List.append_nil _).symm, hrun⟩
      -- There is no other way to cut the bytes into cells.
      rintro ⟨parts', hparts', hlength'⟩
      rw [hparts.unique hparts'] at hlength
      exact hlength hlength'
  · refine .inr ⟨?_, _, front, tail, hrest, run_values_of_blocked hparts hblocked hrest⟩
    rintro ⟨parts', hparts', -⟩
    rw [hrest] at hparts'
    exact hparts.not_splits_append hblocked hparts'

/-- The remaining columns are given just where as many cells are ahead as were
announced. -/
theorem run_values_eq_ok_iff {cells : List (Option String)} {r' : Row} :
    values.run r = .ok cells r'
      ↔ ∃ parts, Splits r.cursor.rest parts ∧ parts.length = r.columnCount
        ∧ cells = texts (parts.map Prod.fst) ∧ r' = r.passed r.cursor.rest [] := by
  constructor
  · intro h
    rcases values_cases r with ⟨parts, hparts, hlength, hrun⟩ | ⟨-, message, front, tail, -, hrun⟩
    · rw [hrun] at h
      cases h
      exact ⟨parts, hparts, hlength, rfl, rfl⟩
    · rw [hrun] at h
      cases h
  · rintro ⟨parts, hparts, hlength, rfl, rfl⟩
    rw [run_values_of_splits hparts, if_pos hlength]

/-! ### Rows as they are written -/

/-- A row is written cell by cell, each with its length in front. -/
theorem encode_cons (cell : Option Bytes) (cells : List (Option Bytes)) :
    encode (cell :: cells) = LengthCoded.encodeCell cell ++ encode cells :=
  List.flatMap_cons

/-- A row that has been written cell by cell is the run of these cells, if it is no
longer than a number of 64 bits can tell. -/
theorem splits_encode {cells : List (Option Bytes)} (h : (encode cells).length < UInt64.size) :
    Splits (encode cells) (cells.map fun cell => (cell, encodeCell cell)) := by
  induction cells with
  | nil => exact .nil
  | cons cell cells ih =>
    rw [encode_cons, List.length_append] at h
    -- Each of the two parts is shorter than the row, so the lengths in it can be written.
    have hlength : ∀ bs ∈ cell, bs.length < UInt64.size := by
      intro bs hbs
      have hle := length_le_length_encodeCell hbs
      omega
    have hrest : (encode cells).length < UInt64.size := by omega
    rw [encode_cons, List.map_cons]
    exact .cons (cellForm_encodeCell hlength) (ih hrest)

/-- Of a row with as many cells as were announced, `values` gives these cells, and
the cursor is at the end. -/
theorem run_values_encode {cells : List (Option Bytes)} (h : (encode cells).length < UInt64.size) :
    values.run (ofPayload (encode cells) cells.length)
      = .ok (texts cells)
          ⟨encode cells, cells.length, (encode cells).length, []⟩ := by
  have hrun := run_values_of_splits (r := ofPayload (encode cells) cells.length) (splits_encode h)
  have hlength : (cells.map fun cell => (cell, encodeCell cell)).length
      = (ofPayload (encode cells) cells.length).columnCount := List.length_map _
  rw [if_pos hlength] at hrun
  simpa [passed, ofPayload, Cursor.ofBytes, List.map_map, Function.comp_def] using hrun

/-! ### What every row gives -/

/-- Whatever the payload holds, the cells that a row gives are as many as were
announced. -/
theorem ends_values (r : Row) :
    Ends values r (fun cells _ => cells.length = r.columnCount) (fun _ _ => True) := by
  rcases values_cases r with ⟨parts, -, hlength, hrun⟩ | ⟨-, message, front, tail, -, hrun⟩
  · rw [Ends, hrun]
    simpa [texts] using hlength
  · rw [Ends, hrun]
    trivial

/-- The error is a breach of the protocol, with the bytes that show it. -/
def IsBreach (e : Error) : Prop :=
  ∃ message raw, e = .breachIn message raw

/-- Asking for the remaining columns can fail in no other way, be it a cell that
cannot be decoded or a wrong number of them. -/
theorem failsOnly_values : FailsOnly IsBreach values := by
  intro r
  rcases values_cases r with ⟨parts, -, -, hrun⟩ | ⟨-, message, front, tail, -, hrun⟩
  · rw [Ends, hrun]
    trivial
  · rw [Ends, hrun]
    exact ⟨message, r.payload, rfl⟩

end SqlWire.Row
