import SqlWire.Proofs.Session.Display

/-!
# What a display that succeeds has shown

A display that succeeds has read fields and rows as a query reads them, and has
written the lines of these, on whatever output (`reads_of_run_showResults`). It
takes the rows with as many cells as have been announced, but it does not count the
fields. A query does: it gives the result set that has been shown if its fields are
as many as announced, and otherwise it fails (`query_of_run_showResults`). So a
display may succeed where a query is refused (`showResults_counts_no_fields`).
-/

set_option autoImplicit false

namespace SqlWire

open SqlWire.Action

namespace Sink

variable {k k' : Sink} {bs : Bytes}

/-- To write nothing is to leave the output as it is. -/
@[simp] theorem append_nil (k : Sink) : k.append [] = k := rfl

/-- A write that succeeds has written all. An output without a capacity takes
everything, and one with a capacity fails as soon as it cannot take the whole. -/
theorem eq_append_of_run_write (h : (write bs).run k = .ok () k') : k' = k.append bs := by
  simp only [write, EStateM.run_bind, EStateM.run_get] at h
  split at h
  case h_1 =>
    cases h
    rfl
  case h_2 capacity hcapacity =>
    by_cases hfull : capacity < k.size + bs.length
    · rw [if_pos hfull] at h
      cases h
    · -- With room for all of it nothing is cut off.
      have hroom : bs.length ≤ capacity - k.size := by omega
      rw [if_neg hfull] at h
      cases h
      rw [List.take_of_length_le hroom]

end Sink

namespace Session

section

variable {τ : Type} {s s' : Session τ} {k k' : Sink}

/-- What succeeds beside an output has succeeded by itself, and the output is the
same. -/
theorem eq_of_run_besideSink {α : Type} {action : SessionM τ α} {a : α}
    (h : (besideSink action).run (s, k) = .ok a (s', k')) : action.run s = .ok a s' ∧ k' = k := by
  rw [besideSink, run_focus] at h
  cases hrun : action.run s with
  | ok a₁ s₁ =>
    rw [hrun] at h
    cases h
    exact ⟨rfl, rfl⟩
  | error e s₁ =>
    rw [hrun] at h
    cases h

/-- A line that has been written is at the end of the output, and the session is the
same. -/
theorem eq_of_run_writeLine {text : String} (h : (writeLine text).run (s, k) = .ok () (s', k')) :
    s' = s ∧ k' = k.append (ResultSet.lineBytes text) := by
  rw [writeLine, run_focus, EStateM.run_adaptExcept] at h
  cases hrun : (Sink.write (Utf8.encode text ++ [0x0A])).run k with
  | ok _ k₁ =>
    rw [hrun] at h
    cases h
    exact ⟨rfl, Sink.eq_append_of_run_write hrun⟩
  | error e k₁ =>
    rw [hrun] at h
    cases h

variable [Transport τ]

/-- A round of the display reads as a round of the query does. Either both have come
to the end marker, or the row has been read and its line written. -/
theorem nextCells_of_run_showRow {shown : Option Unit}
    (h : showRow.run (s, k) = .ok shown (s', k')) :
    ∃ cells, nextCells.run s = .ok cells s' ∧ match shown, cells with
      | none, none => k' = k
      | some _, some cells => k' = k.append (ResultSet.lineBytes (rowLine cells))
      | _, _ => False := by
  obtain ⟨cells, ⟨s₁, k₁⟩, hcells, h⟩ := run_bind_eq_ok_iff.mp h
  obtain ⟨hrun, rfl⟩ := eq_of_run_besideSink hcells
  cases cells with
  | none =>
    cases h
    exact ⟨none, hrun, rfl⟩
  | some cells =>
    obtain ⟨_, ⟨s₂, k₂⟩, hline, h⟩ := run_bind_eq_ok_iff.mp h
    obtain ⟨rfl, rfl⟩ := eq_of_run_writeLine hline
    cases h
    exact ⟨some cells, hrun, rfl⟩

/-- Rows that have been shown have been read, in as many rounds. The induction is on
the rounds, and the output grows by the line of each row. -/
theorem yields_nextCells {x x' : Session τ × Sink} {shown : List Unit}
    (h : Yields showRow x shown x') :
    ∃ rows, rows.length = shown.length ∧ Yields nextCells x.1 rows x'.1
      ∧ x'.2 = x.2.append (rows.flatMap fun cells => ResultSet.lineBytes (rowLine cells)) := by
  induction h with
  | none h =>
    obtain ⟨cells, hcells, hshown⟩ := nextCells_of_run_showRow h
    cases cells with
    | none => exact ⟨[], rfl, .none hcells, hshown.trans (Sink.append_nil _).symm⟩
    -- A round that shows no row has read none.
    | some cells => exact hshown.elim
  | some h hrest ih =>
    obtain ⟨cells, hcells, hshown⟩ := nextCells_of_run_showRow h
    obtain ⟨rows, hlength, hyields, hsink⟩ := ih
    cases cells with
    | none => exact hshown.elim
    | some cells =>
      refine ⟨cells :: rows, congrArg Nat.succ hlength, .some hcells hyields, ?_⟩
      rw [hsink, hshown, Sink.append_append]
      rfl

end

section

variable {τ : Type} [FiniteTransport τ] {s s' : Session τ} {k k' : Sink}

/-- A display that succeeds has read fields and then rows, and written the lines of
the result set that they are. Its five steps are taken apart first; what each did to
session and output is known then. -/
theorem reads_of_run_showResults {rows : Nat} (h : showResults.run (s, k) = .ok rows (s', k')) :
    ∃ (set : ResultSet) (s₁ : Session τ), readFields.run s = .ok set.fields s₁
      ∧ readRows.run s₁ = .ok set.rows s' ∧ set.rows.length = rows ∧ k' = k.append set.shown := by
  obtain ⟨fields, ⟨s₁, k₁⟩, hfields, h₁⟩ := run_bind_eq_ok_iff.mp h
  obtain ⟨_, ⟨s₂, k₂⟩, hnames, h₂⟩ := run_bind_eq_ok_iff.mp h₁
  obtain ⟨_, _, hget, h₃⟩ := run_bind_eq_ok_iff.mp h₂
  obtain ⟨shown, ⟨s₄, k₄⟩, hloop, h₄⟩ := run_bind_eq_ok_iff.mp h₃
  obtain ⟨_, ⟨s₅, k₅⟩, hcount, h₅⟩ := run_bind_eq_ok_iff.mp h₄
  obtain ⟨hread, hk₁⟩ := eq_of_run_besideSink hfields
  obtain ⟨hs₂, hk₂⟩ := eq_of_run_writeLine hnames
  obtain ⟨hs₅, hk₅⟩ := eq_of_run_writeLine hcount
  cases hget
  cases h₅
  subst hs₂ hs₅
  -- The loop ended by itself, so its rounds are known and their number is within the
  -- fuel.
  obtain ⟨rounds, hrounds, hfuel, hyields⟩ := yields_of_run_collect hloop
  obtain ⟨rows, hlength, hcells, hsink⟩ := yields_nextCells hyields
  -- The loop of the query has the fuel of the other one, and needs it for as many rounds.
  rw [← hlength] at hfuel
  have hrows := run_collect_of_yields hcells hfuel []
  obtain rfl : shown = rounds := hrounds
  refine ⟨⟨fields, rows⟩, s₂, hread, hrows, hlength, ?_⟩
  have hk₄ : k₄ = k₂.append _ := hsink
  rw [hk₅, hk₄, hk₂, hk₁, ResultSet.shown_eq, Sink.append_append, Sink.append_append, hlength]

/-- A report of rows shown is that of a display that succeeded, with the output that
it has left. -/
theorem run_eq_ok_of_report_showResults {capacity : Option Nat} {rows : Nat}
    (h : ((Operation.showResults capacity).perform s).1.result = .ok (.shown rows)) :
    ∃ k, showResults.run (s, { capacity })
        = .ok rows (((Operation.showResults capacity).perform s).2, k)
      ∧ ((Operation.showResults capacity).perform s).1.output = k.contents := by
  unfold Operation.perform at h ⊢
  dsimp only at h ⊢
  cases hrun : showResults.run (s, { capacity }) with
  | ok rows' x =>
    rw [hrun] at h
    cases h
    exact ⟨x.2, rfl, rfl⟩
  | error e x =>
    rw [hrun] at h
    cases h

/-- Whether a query returns what has been read depends on the number of fields
alone. The test stands between the fields and the rows, so a query that fails it has
not read the rows. -/
theorem perform_query_of_reads {sql : String} {columns : Nat} {set : ResultSet} {s₁ s₂ : Session τ}
    (hexecute : (execute (Utf8.encode sql)).run s = .ok (.resultSet columns) s₁)
    (hfields : readFields.run s₁ = .ok set.fields s₂) (hrows : readRows.run s₂ = .ok set.rows s') :
    (Operation.query sql).perform s
      = if set.fields.length = columns then (⟨.ok (.result (.rows set)), []⟩, s')
        else (⟨.error (.breach
          s!"Result set announced {columns} columns but sent {set.fields.length} fields"), []⟩, s₂) := by
  by_cases hlength : set.fields.length = columns
  · simp only [Operation.perform, Operation.report, query, EStateM.run_bind, hexecute, hfields,
      run_ensure, if_pos hlength, hrows, EStateM.run_pure]
  · simp only [Operation.perform, Operation.report, query, EStateM.run_bind, hexecute, hfields,
      run_ensure, if_neg hlength]

/-- If the columns of a result set have been announced and the display of it
succeeds, then fields and rows have been read, each row with as many cells as
announced, and their lines written. A query in its place would have read the same:
it returns them and leaves the same session if the fields are as many as announced.
Otherwise it fails when it has read them, while the display has not noticed. -/
theorem query_of_run_showResults (s : Session τ) (sql : String) (columns rows : Nat)
    (capacity : Option Nat)
    (hexecute : ((Operation.execute (Utf8.encode sql)).perform s).1.result
      = .ok (.outcome (.resultSet columns)))
    (hshow : ((Operation.showResults capacity).perform
      ((Operation.execute (Utf8.encode sql)).perform s).2).1.result = .ok (.shown rows)) :
    let announced := ((Operation.execute (Utf8.encode sql)).perform s).2
    let shown := (Operation.showResults capacity).perform announced
    ∃ (set : ResultSet) (s₁ : Session τ), readFields.run announced = .ok set.fields s₁
      ∧ readRows.run s₁ = .ok set.rows shown.2 ∧ set.rows.length = rows
      ∧ (∀ cells ∈ set.rows, cells.length = columns) ∧ shown.1.output = set.shown
      ∧ (Operation.query sql).perform s
        = if set.fields.length = columns then (⟨.ok (.result (.rows set)), []⟩, shown.2)
          else (⟨.error (.breach
            s!"Result set announced {columns} columns but sent {set.fields.length} fields"), []⟩,
            s₁) := by
  intro announced shown
  obtain ⟨outcome, houtcome, hannounced⟩ := run_eq_ok_of_report hexecute
  cases houtcome
  obtain ⟨k, hrun, houtput⟩ := run_eq_ok_of_report_showResults hshow
  obtain ⟨set, s₁, hfields, hrows, hlength, rfl⟩ := reads_of_run_showResults hrun
  -- The fields do not change the count that was announced, so the rows are held to it.
  have hkept := (steady_columnCount columns).maintains_readFields _ (ask_of_run_execute hannounced).1
  have hcount : s₁.columnCount = columns := hkept.ok_of_run hfields
  have hcells := length_of_run_readRows hrows
  rw [hcount] at hcells
  have hwritten : shown.1.output = set.shown := houtput.trans (Sink.contents_append _ _)
  exact ⟨set, s₁, hfields, hrows, hlength, hcells, hwritten,
    perform_query_of_reads hannounced hfields hrows⟩

end

/-! ### One column -/

/-- A session whose server is going to announce one column, and to send so many
fields that are all alike, and a row of one cell. -/
def announcingOne (fields : Nat) : Session MemoryTransport :=
  let field : Bytes := [3, 0x64, 0x65, 0x66, 0, 0, 0, 1, 0x61, 0, 12, 33, 0, 255, 0, 0, 0, 253, 0, 0,
    0, 0, 0]
  let answer : List Bytes := [1] :: List.replicate fields field
    ++ [[0xFE, 0, 0, 2, 0], [1, 0x78], [0xFE, 0, 0, 2, 0]]
  (Operation.connect.perform (ofTransport (MemoryTransport.welcoming 7 (Packet.stream 1 answer))
    { user := "app" })).2

/-- With one field the query returns what the display has shown. One field is what
was announced. -/
theorem query_of_run_showResults_one_field :
    ((Operation.execute (Utf8.encode "S")).perform (announcingOne 1)).1.result
        = .ok (.outcome (.resultSet 1))
      ∧ ((Operation.showResults none).perform
          ((Operation.execute (Utf8.encode "S")).perform (announcingOne 1)).2).1.result
        = .ok (.shown 1)
      ∧ ∃ set : ResultSet, set.fields.length = 1 ∧ set.rows.length = 1
        ∧ ((Operation.showResults none).perform
            ((Operation.execute (Utf8.encode "S")).perform (announcingOne 1)).2).1.output = set.shown
        ∧ ((Operation.query "S").perform (announcingOne 1)).1.result = .ok (.result (.rows set)) := by
  have hexecute : ((Operation.execute (Utf8.encode "S")).perform (announcingOne 1)).1.result
      = .ok (.outcome (.resultSet 1)) := Report.answer?_eq_some_iff.mp (by decide +kernel)
  have hshow : ((Operation.showResults none).perform
      ((Operation.execute (Utf8.encode "S")).perform (announcingOne 1)).2).1.result
        = .ok (.shown 1) := Report.answer?_eq_some_iff.mp (by decide +kernel)
  obtain ⟨set, s₁, -, -, hrows, -, houtput, hquery⟩ :=
    query_of_run_showResults (announcingOne 1) "S" 1 1 none hexecute hshow
  by_cases hlength : set.fields.length = 1
  · rw [if_pos hlength] at hquery
    have hresult : ((Operation.query "S").perform (announcingOne 1)).1.result
        = .ok (.result (.rows set)) := by rw [hquery]
    exact ⟨hexecute, hshow, set, hlength, hrows, houtput, hresult⟩
  · -- The query is not refused, so this is not the case.
    have hanswered : ((Operation.query "S").perform (announcingOne 1)).1.answer?.isSome = true := by
      decide +kernel
    rw [if_neg hlength] at hquery
    rw [hquery] at hanswered
    cases hanswered

/-- With another field the display still succeeds, and the query does not: only the
query compares their number. -/
theorem showResults_counts_no_fields :
    ¬ ∀ (s : Session MemoryTransport) (sql : String) (columns rows : Nat),
      s.state = .authenticated →
      ((Operation.execute (Utf8.encode sql)).perform s).1.result
        = .ok (.outcome (.resultSet columns)) →
      ((Operation.showResults none).perform
        ((Operation.execute (Utf8.encode sql)).perform s).2).1.result = .ok (.shown rows) →
      ∃ set : ResultSet, ((Operation.query sql).perform s).1.result = .ok (.result (.rows set)) := by
  intro hclaim
  obtain ⟨set, hset⟩ := hclaim (announcingOne 2) "S" 1 1 (by decide +kernel)
    (Report.answer?_eq_some_iff.mp (by decide +kernel))
    (Report.answer?_eq_some_iff.mp (by decide +kernel))
  have hrefused : ((Operation.query "S").perform (announcingOne 2)).1.answer? = none := by
    decide +kernel
  rw [Report.answer?_eq_some_iff.mpr hset] at hrefused
  cases hrefused

end Session

end SqlWire
