import SqlWire.Proofs.Row

/-!
# What a row can be asked for

A row can be asked for its next column, as bytes or as text, and for all remaining
columns at once. `Reached` are the rows that a caller can come to in this way. In
each of them the cursor stands somewhere in the payload (`Reached.placed`), and a
column either takes it forward or leaves the row as it is.

`values_decodes_cells` is about a row of which nothing has been read: its columns
are given if and only if its payload is a run of as many cells as were announced.
`run_values_of_asked` is about a row of which some columns have been read. The loop
gives exactly the others then, but they are counted against all columns that were
announced, so the row is refused.
-/

set_option autoImplicit false

namespace SqlWire.Row

open SqlWire.Action LengthCoded

/-! ### Reading in steps -/

/-- The two ways to ask for the next column. They may be mixed within one row. -/
inductive ColumnAsk where
  | value
  | text
deriving DecidableEq, Repr

namespace ColumnAsk

/-- What is given for a cell: its bytes or its text, and in both cases that it is
SQL NULL. -/
def answer (ask : ColumnAsk) (cell : Option Bytes) : Option Bytes ⊕ Option String :=
  match ask with
  | value => .inl cell
  | text => .inr (cell.map Utf8.decode)

/-- Asks for the next column, in one of the ways. -/
def perform : ColumnAsk → EStateM Error Row (Option Bytes ⊕ Option String)
  | value => return .inl (← nextValue)
  | text => return .inr (← nextText)

/-- However it is asked for, the next column is the next value, worded as was asked.
What is true of one way is therefore true of the other. -/
theorem run_perform (ask : ColumnAsk) (r : Row) :
    ask.perform.run r = (ask.answer <$> nextValue).run r := by
  rw [run_map]
  cases ask with
  | value =>
    simp only [perform, answer, EStateM.run_bind]
    cases nextValue.run r <;> rfl
  | text =>
    simp only [perform, nextText, answer, EStateM.run_bind]
    cases nextValue.run r <;> rfl

end ColumnAsk

/-- The row that an action leaves, whatever it comes to. A caller may go on with the
row after a failure as well. -/
def after {α : Type} (action : EStateM Error Row α) (r : Row) : Row :=
  match action.run r with
  | .ok _ r' => r'
  | .error _ r' => r'

/-- The rows that can be come to from a fresh one. A caller may ask in any order,
and need not stop at a failure. -/
inductive Reached (payload : Bytes) (columnCount : Nat) : Row → Prop
  | fresh : Reached payload columnCount (ofPayload payload columnCount)
  | asked {r : Row} (h : Reached payload columnCount r) (ask : ColumnAsk) :
    Reached payload columnCount (after ask.perform r)
  | drained {r : Row} (h : Reached payload columnCount r) :
    Reached payload columnCount (after values r)

/-- The row is one of the given payload and announcement, and its cursor stands
somewhere in it. This is the invariant of everything that a caller can do with a
row. -/
structure Placed (payload : Bytes) (columnCount : Nat) (r : Row) : Prop where
  payload_eq : r.payload = payload
  columnCount_eq : r.columnCount = columnCount
  cursor : ∃ before, payload = before ++ r.cursor.rest ∧ r.cursor.position = before.length

variable {payload form front rest : Bytes} {columnCount : Nat} {r : Row}
  {parts : List (Option Bytes × Bytes)}

/-- A cursor that goes on over bytes ahead stays in the payload. It is the step for
every question that is answered. -/
theorem Placed.passed (h : Placed payload columnCount r) (hrest : r.cursor.rest = front ++ rest) :
    Placed payload columnCount (r.passed front rest) := by
  obtain ⟨before, hpayload, hposition⟩ := h.cursor
  refine ⟨h.payload_eq, h.columnCount_eq, before ++ front, ?_, ?_⟩
  · rw [List.append_assoc, hpayload, hrest]
    rfl
  · rw [List.length_append, ← hposition]
    rfl

/-- A cursor that stands somewhere in the payload is not behind its end. -/
theorem Placed.position_le (h : Placed payload columnCount r) :
    r.cursor.position ≤ payload.length := by
  obtain ⟨before, hpayload, hposition⟩ := h.cursor
  rw [hposition, hpayload, List.length_append]
  exact Nat.le_add_right _ _

/-- A caller never gets the cursor out of the payload. The induction is on the steps
that led to the row, with one case for each end of each of them. -/
theorem Reached.placed (h : Reached payload columnCount r) : Placed payload columnCount r := by
  induction h with
  | fresh => exact ⟨rfl, rfl, [], rfl, rfl⟩
  | @asked r h ask ih =>
    -- A question that fails leaves the row as it is, and one that succeeds goes on in
    -- the payload.
    rcases nextValue_cases r with ⟨cell, form, rest, -, hrest, hrun⟩ | ⟨message, hrun⟩
    · rw [after, ask.run_perform, run_map, hrun]
      exact ih.passed hrest
    · rw [after, ask.run_perform, run_map, hrun]
      exact ih
  | @drained r h ih =>
    rcases values_cases r with ⟨parts, -, -, hrun⟩ | ⟨-, message, front, rest, hrest, hrun⟩
    · rw [after, hrun]
      exact ih.passed (List.append_nil _).symm
    · rw [after, hrun]
      exact ih.passed hrest

/-! ### A fresh row -/

/-- The loop's bound is none: with more fuel than there are bytes ahead it does the
same. -/
theorem run_drain_eq_of_le {fuel : Nat} (h : r.cursor.remaining ≤ fuel)
    (done : List (Option String)) :
    (drain fuel done).run r = (drain r.cursor.remaining done).run r := by
  obtain ⟨front, tail, parts, hrest, hparts, htail⟩ := exists_front r.cursor.rest
  rw [run_drain_of_splits hparts htail hrest h, run_drain_of_splits hparts htail hrest (Nat.le_refl _)]

/-- The columns of a fresh row are given if and only if its payload is a run of as
many cells as were announced, be they written narrowly or not. They are the texts of
these cells then, and there is only one way to cut the payload into cells. In every
other case the row is in breach of the protocol, and the error shows the whole
payload. The loop comes to its end by itself, since more fuel changes nothing. In
every row that a caller can come to, a column that is given takes the cursor forward
and not past the end, and one that is not leaves the row as it is, so that asking
again fails in the same way. -/
theorem values_decodes_cells (payload : Bytes) (columnCount : Nat) :
    (∀ cells r, values.run (ofPayload payload columnCount) = .ok cells r
        ↔ ∃ parts, Splits payload parts ∧ parts.length = columnCount
          ∧ cells = texts (parts.map Prod.fst)
          ∧ r = ⟨payload, columnCount, payload.length, []⟩)
      ∧ (∀ parts parts', Splits payload parts → Splits payload parts' → parts = parts')
      ∧ ((¬ ∃ parts, Splits payload parts ∧ parts.length = columnCount) →
        ∃ message r, values.run (ofPayload payload columnCount)
          = .error (.breachIn message payload) r)
      ∧ (∀ fuel ≥ payload.length, (drain fuel []).run (ofPayload payload columnCount)
          = (drain payload.length []).run (ofPayload payload columnCount))
      ∧ ∀ r, Reached payload columnCount r →
        Ends nextValue r
          (fun _ r' => r.cursor.position < r'.cursor.position
            ∧ r'.cursor.position ≤ payload.length)
          (fun e r' => r' = r ∧ nextValue.run r' = .error e r'
            ∧ ∃ message, e = .breachIn message payload) := by
  refine ⟨?_, ?_, ?_, ?_, ?_⟩
  · intro cells r
    have hend : (ofPayload payload columnCount).passed payload []
        = ⟨payload, columnCount, payload.length, []⟩ := by
      simp [passed, ofPayload, Cursor.ofBytes]
    rw [run_values_eq_ok_iff, ← hend]
    rfl
  · intro parts parts' hparts hparts'
    exact hparts.unique hparts'
  · intro hnone
    rcases values_cases (ofPayload payload columnCount) with
      ⟨parts, hparts, hlength, -⟩ | ⟨-, message, front, tail, -, hrun⟩
    · exact absurd ⟨parts, hparts, hlength⟩ hnone
    · exact ⟨message, _, hrun⟩
  · intro fuel hfuel
    exact run_drain_eq_of_le hfuel []
  · intro r hreached
    have hplaced := hreached.placed
    rcases nextValue_cases r with ⟨cell, form, rest, hform, hrest, hrun⟩ | ⟨message, hrun⟩
    · rw [Ends, hrun]
      -- A cell takes a byte at least, which is what moves the cursor on.
      have hforward := hform.length_pos
      have hwithin := (hplaced.passed hrest).position_le
      exact ⟨Nat.lt_add_of_pos_right hforward, hwithin⟩
    · rw [Ends, hrun]
      refine ⟨rfl, hrun, message, ?_⟩
      rw [breach, hplaced.payload_eq]

/-! ### A row of which some columns have been read -/

/-- Columns asked for one after the other are the next cells, and the others stay
ahead. The cells that have been read need not be of any one kind of asking. -/
theorem run_mapM_perform (h : Splits r.cursor.rest parts) {asks : List ColumnAsk}
    (hasks : asks.length ≤ parts.length) :
    ∃ front rest, r.cursor.rest = front ++ rest ∧ Splits rest (parts.drop asks.length)
      ∧ (asks.mapM ColumnAsk.perform).run r
        = .ok (List.zipWith ColumnAsk.answer asks (parts.map Prod.fst)) (r.passed front rest) := by
  induction asks generalizing r parts with
  | nil => exact ⟨[], r.cursor.rest, rfl, h, rfl⟩
  | cons ask asks ih =>
    generalize hbs : r.cursor.rest = bs at h
    cases h with
    | nil => exact absurd hasks (by simp)
    | @cons cell form rest parts hform hsplits =>
      have hnext := run_nextValue_of_form hform hbs
      obtain ⟨front, behind, hrest, hbehind, hrun⟩ :=
        ih (r := r.passed form rest) hsplits (Nat.le_of_succ_le_succ hasks)
      -- The cursor of the row that has passed a cell is ahead of nothing but the rest.
      have hrest : rest = front ++ behind := hrest
      refine ⟨form ++ front, behind, ?_, hbehind, ?_⟩
      · rw [hrest, List.append_assoc]
      · rw [passed_passed] at hrun
        rw [List.mapM_cons, EStateM.run_bind, ask.run_perform, run_map, hnext]
        simp only [EStateM.run_bind, hrun]
        rfl

/-- Of a row that is a run of cells, as many as were announced, any number of
columns can be read one by one, in either way. The loop that reads the remaining
columns gives exactly the others and uses the row up. But `values` counts what the
loop gives against all columns that were announced, so it gives the columns only if
none has been read before, and finds the row in breach of the protocol otherwise. -/
theorem run_values_of_asked (hsplits : Splits payload parts) {asks : List ColumnAsk}
    (hasks : asks.length ≤ parts.length) :
    let left := parts.length - asks.length
    let message := s!"Row carries {left} columns, header announced {parts.length}"
    let used : Row := ⟨payload, parts.length, payload.length, []⟩
    ∃ r, (asks.mapM ColumnAsk.perform).run (ofPayload payload parts.length)
        = .ok (List.zipWith ColumnAsk.answer asks (parts.map Prod.fst)) r
      ∧ (drain r.cursor.remaining []).run r
        = .ok (texts ((parts.drop asks.length).map Prod.fst)) used
      ∧ values.run r
        = if asks = [] then .ok (texts (parts.map Prod.fst)) used
          else .error (.breachIn message payload) used := by
  intro left message used
  obtain ⟨front, rest, hpayload, hrest, hrun⟩ :=
    run_mapM_perform (r := ofPayload payload parts.length) hsplits hasks
  have hpayload : payload = front ++ rest := hpayload
  have hused : ((ofPayload payload parts.length).passed front rest).passed rest [] = used := by
    rw [passed_passed, ← hpayload]
    simp [used, passed, ofPayload, Cursor.ofBytes]
  refine ⟨_, hrun, ?_, ?_⟩
  · have hdrain := run_drain_of_splits (r := (ofPayload payload parts.length).passed front rest)
      hrest (.inl rfl) (List.append_nil _).symm (Nat.le_refl _) []
    rwa [if_pos rfl, hused] at hdrain
  · -- The columns that are left are a run of cells, but the announcement is about all of them.
    have hvalues := run_values_of_splits
      (r := (ofPayload payload parts.length).passed front rest) hrest
    have hcount : ((ofPayload payload parts.length).passed front rest).columnCount
        = parts.length := rfl
    rw [hcount, List.length_drop] at hvalues
    refine hvalues.trans ?_
    cases asks with
    | nil =>
      have hall : parts.length - ([] : List ColumnAsk).length = parts.length := Nat.sub_zero _
      rw [if_pos rfl, if_pos hall, List.length_nil, List.drop_zero, ← hused]
      rfl
    | cons ask asks =>
      -- A column that has been read is missing from what the loop gives.
      have hless : parts.length - (ask :: asks).length ≠ parts.length := by
        rw [List.length_cons] at hasks ⊢
        omega
      rw [if_neg hless, if_neg (List.cons_ne_nil _ _), ← hused]
      rfl

/-- A string, SQL NULL and a string with a length written in three bytes, announced
as three columns. After the first as text and the second as bytes, the third is
counted as one of three. -/
theorem run_values_of_asked_mixed :
    let payload : Bytes := [0x01, 0x31, 0xFB, 0xFC, 0x02, 0x00, 0x68, 0x69]
    let parts := [(some [0x31], [0x01, 0x31]), (none, [0xFB]),
      (some [0x68, 0x69], [0xFC, 0x02, 0x00, 0x68, 0x69])]
    Splits payload parts ∧ [ColumnAsk.text, .value].length ≤ parts.length
      ∧ ∃ r, ([ColumnAsk.text, .value].mapM ColumnAsk.perform).run (ofPayload payload 3)
          = .ok [.inr (some "1"), .inl none] r
        ∧ values.run r = .error (.breachIn "Row carries 1 columns, header announced 3" payload)
          ⟨payload, 3, 8, []⟩ := by
  intro payload parts
  have hone : Form 1 [0x01] := .plain 0x01 (by decide)
  have htwo : Form 2 [0xFC, 0x02, 0x00] := .wide16 [0x02, 0x00] rfl
  have hsplits : Splits payload parts :=
    .cons (@CellForm.string [0x01] [0x31] hone) (.cons .null
      (.cons (@CellForm.string [0xFC, 0x02, 0x00] [0x68, 0x69] htwo) .nil))
  have hasks : [ColumnAsk.text, .value].length ≤ parts.length := by decide
  obtain ⟨r, hread, -, hvalues⟩ := run_values_of_asked hsplits hasks
  rw [if_neg (List.cons_ne_nil _ _)] at hvalues
  have hmessage : s!"Row carries {1} columns, header announced {3}"
      = "Row carries 1 columns, header announced 3" := by decide +kernel
  rw [← hmessage]
  exact ⟨hsplits, hasks, r, hread, hvalues⟩

/-- A row of two cells of which the first has been read: the second one is not
given. -/
theorem values_refuse_remaining_column :
    let payload : Bytes := [0x01, 0x31, 0x01, 0x32]
    Splits payload [(some [0x31], [0x01, 0x31]), (some [0x32], [0x01, 0x32])]
      ∧ ∃ r, nextText.run (ofPayload payload 2) = .ok (some "1") r
        ∧ values.run r = .error (.breachIn "Row carries 1 columns, header announced 2" payload)
          ⟨payload, 2, 4, []⟩
        ∧ ¬ ∃ r', values.run r = .ok [some "2"] r' := by
  intro payload
  have hone : Form 1 [0x01] := .plain 0x01 (by decide)
  have hsecond : Splits [0x01, 0x32] [(some [0x32], [0x01, 0x32])] :=
    .cons (@CellForm.string [0x01] [0x32] hone) .nil
  have hrun := run_values_of_splits (r := ⟨payload, 2, 2, [0x01, 0x32]⟩) hsecond
  have hmessage : s!"Row carries {1} columns, header announced {2}"
      = "Row carries 1 columns, header announced 2" := by decide +kernel
  rw [if_neg (by decide)] at hrun
  rw [← hmessage]
  refine ⟨.cons (@CellForm.string [0x01] [0x31] hone) hsecond, ⟨payload, 2, 2, [0x01, 0x32]⟩, rfl,
    hrun, ?_⟩
  rintro ⟨r', hgiven⟩
  rw [hrun] at hgiven
  cases hgiven

end SqlWire.Row
