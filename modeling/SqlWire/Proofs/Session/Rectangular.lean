import SqlWire.Proofs.Packet
import SqlWire.Proofs.Row
import SqlWire.Proofs.Session.Steady
import SqlWire.Proofs.Transport.Memory

/-!
# A buffered result is a table

The number of columns of a result set is sent once, ahead of it. Fields and rows
come in packets of their own, and no row says how many cells it has. `query`
compares the fields with the announced number when it has read them all, and
`Row.values` compares each row with the number that the session holds, which nothing
changes meanwhile. So whatever bytes a server sends, a result that `query` gives has
as many fields, and as many cells in each row, as its first packet announced
(`query_rectangular`), and looking up a cell or a column in it cannot miss.

The proof takes a successful query apart into its three stages, the command, the
fields and the rows (`reads_of_run_query`), and carries the number from the first to
the last of them.
-/

set_option autoImplicit false

namespace SqlWire

open SqlWire.Action

namespace ResultSet

/-- There are so many fields, and so many cells in each row. The rows themselves may
be any number, none included. -/
structure Rectangular (set : ResultSet) (columns : Nat) : Prop where
  fields : set.fields.length = columns
  rows : ∀ cells ∈ set.rows, cells.length = columns

variable {set : ResultSet} {columns row column : Nat}

/-- Inside of the table there is a cell at every place, and it is the one looked up.
So a lookup that gives nothing has met SQL NULL or gone outside. -/
theorem Rectangular.cell_eq_get? (h : set.Rectangular columns) (hrow : row < set.size)
    (hcolumn : column < columns) :
    (set.rows[row]?.bind fun cells => cells[column]?) = some (set.get? row column) := by
  have hrow : row < set.rows.length := hrow
  have hcells : column < set.rows[row].length := by
    rw [h.rows _ (List.getElem_mem hrow)]
    exact hcolumn
  simp [get?, List.getElem?_eq_getElem hrow, List.getElem?_eq_getElem hcells]

/-- Outside of it nothing is found, be it beyond the last row or beyond the last
column. -/
theorem Rectangular.get?_eq_none (h : set.Rectangular columns)
    (houtside : ¬ (row < set.size ∧ column < columns)) : set.get? row column = none := by
  unfold get?
  cases hcells : set.rows[row]? with
  | none => rfl
  | some cells =>
    obtain ⟨hrow, hmem⟩ := List.getElem?_eq_some_iff.mp hcells
    have hlength : cells.length = columns := by
      rw [← hmem]
      exact h.rows _ (List.getElem_mem hrow)
    -- The row is inside, so it is the column that is not.
    have hcolumn : ¬ column < columns := by
      intro hlt
      exact houtside ⟨hrow, hlt⟩
    have hnone : cells[column]? = none := List.getElem?_eq_none (by omega)
    simp [hnone]

/-- The place of a name is that of the first field that has it. Later fields of the
same name are never found by it. -/
theorem columnIndex?_eq_some_iff {name : String} :
    set.columnIndex? name = some column
      ↔ ∃ field, set.fields[column]? = some field ∧ field.name = name
        ∧ ∀ earlier ∈ set.fields.take column, earlier.name ≠ name := by
  rw [columnIndex?, List.findIdx?_eq_some_iff_getElem]
  -- The library speaks of the places before the column, the law of the fields at them.
  constructor
  · rintro ⟨hcolumn, hname, hfirst⟩
    refine ⟨set.fields[column], List.getElem?_eq_getElem hcolumn, by simpa using hname, ?_⟩
    intro earlier hearlier
    obtain ⟨place, hplace, rfl⟩ := List.mem_take_iff_getElem.mp hearlier
    simpa using hfirst place (by omega)
  · rintro ⟨field, hfield, hname, hfirst⟩
    obtain ⟨hcolumn, rfl⟩ := List.getElem?_eq_some_iff.mp hfield
    refine ⟨hcolumn, by simpa using hname, ?_⟩
    intro place hplace
    have hmem : set.fields[place] ∈ set.fields.take column :=
      List.mem_take_iff_getElem.mpr ⟨place, by omega, rfl⟩
    simpa using hfirst _ hmem

end ResultSet

namespace Session

/-- The header of a result set is a length-coded number other than zero, in
whichever width it is written. What may stand behind the number is not looked at. -/
theorem announcedColumns_eq_some_iff {payload : Bytes} {columns : Nat} :
    announcedColumns payload = some columns
      ↔ ∃ count, Reader.codedInt.run? payload = some count ∧ 1 ≤ columns
        ∧ count.toNat = columns := by
  have hzero (count : UInt64) : count = 0 ↔ count.toNat = 0 := UInt64.toNat_inj.symm
  unfold announcedColumns
  cases Reader.codedInt.run? payload with
  | none => simp
  | some count =>
    simp only [hzero, Option.some.injEq, exists_eq_left']
    by_cases hcount : count.toNat = 0
    · simp only [hcount, if_true, reduceCtorEq, false_iff]
      omega
    · simp only [hcount, if_false, Option.some.injEq]
      omega

section

variable {τ : Type} [Transport τ] {s s' : Session τ} {sql : Bytes} {columns : Nat}

/-- Sends a query and gives the first packet of the answer, whatever it is.
`execute` does the same and then looks at the packet, so a theorem about its
announcement can name the packet by this. -/
def ask (sql : Bytes) : SessionM τ Packet := do
  startExchange
  send (Command.query.payload sql)
  receive

/-- A result set is announced by the first packet, and the session keeps the number
of columns. The packet is the one that `ask` would have been given in the same
session. -/
theorem ask_of_run_execute (h : (execute sql).run s = .ok (.resultSet columns) s') :
    s'.columnCount = columns
      ∧ ∃ packet s₁, (ask sql).run s = .ok packet s₁
        ∧ announcedColumns packet.payload = some columns := by
  have hend : Ends (execute sql) s
      (fun outcome s' => ∀ columns, outcome = .resultSet columns → s'.columnCount = columns
        ∧ ∃ packet s₁, (ask sql).run s = .ok packet s₁
          ∧ announcedColumns packet.payload = some columns)
      (fun _ _ => True) := by
    simp only [execute, requireReady, ends_bind, ends_get, ends_ensure]
    split
    case isFalse => trivial
    split
    case isFalse => trivial
    -- From here on `execute` does what `ask` does, and then looks at the packet.
    have hask := ends_run (ask sql) s
    simp only [ask, ends_bind] at hask
    refine hask.mono ?_ (fun _ _ _ => trivial)
    intro _ s₁ h₁
    refine h₁.mono ?_ (fun _ _ _ => trivial)
    intro _ s₂ h₂
    refine h₂.mono ?_ (fun _ _ _ => trivial)
    intro packet s₃ h₃
    cases packet.kind with
    | ok =>
      rw [ends_bind]
      refine (maintains_const True _ s₃ trivial).mono ?_ (fun _ _ _ => trivial)
      intro reply s₄ _
      -- A confirmation is no announcement, so nothing is left to say of it.
      simp [recordOk]
    | error =>
      rw [ends_bind]
      refine (maintains_const True _ s₃ trivial).mono ?_ (fun _ _ _ => trivial)
      intro reply s₄ _
      simp only [note, Channel.note, onChannel, ends_bind, ends_focus, ends_modify, ends_throw]
    | eof | data =>
      dsimp only
      split
      case h_1 announced hannounced =>
        simp only [note, Channel.note, onChannel, ends_bind, ends_focus, ends_modify, ends_pure]
        intro columns hcolumns
        cases hcolumns
        exact ⟨rfl, packet, s₃, h₃, hannounced⟩
      case h_2 => trivial
  exact hend.ok_of_run h columns rfl

/-- No packet and no reply changes the number of columns: only the announcement of a
result set does, and the end of the session. -/
theorem steady_columnCount (columns : Nat) : Steady fun s : Session τ => s.columnCount = columns where
  receive := maintains_onChannel (fun _ _ hs => hs) _
  send _ := maintains_onChannel (fun _ _ hs => hs) _
  note _ := maintains_onChannel (fun _ _ hs => hs) _
  startExchange := maintains_onChannel (fun _ _ hs => hs) _
  reply _ _ _ _ _ hs := hs

/-- A row that is read has as many cells as the session has columns, and leaves it
so many. So the same holds of the next row, which is what the loop over rows needs. -/
theorem ends_nextCells_length (hs : s.columnCount = columns) :
    Ends nextCells s
      (fun a s' => s'.columnCount = columns ∧ ∀ cells ∈ a, cells.length = columns)
      (fun _ _ => True) := by
  rw [nextCells, ends_bind]
  -- The row is handed the session's count, which no reading of rows changes.
  have hrow := ((steady_columnCount columns).maintains_nextRow s hs).and
    (ends_nextRow_columnCount s)
  refine hrow.mono ?_ (fun _ _ _ => trivial)
  intro row s₁ h₁
  obtain ⟨hcount, hannounced⟩ := h₁
  cases row with
  | none => exact ⟨hcount, by simp⟩
  | some row =>
    have hvalues := Row.ends_values row
    unfold Ends at hvalues
    dsimp only
    split
    case h_1 cells _ heq =>
      rw [heq] at hvalues
      have hcolumns : row.columnCount = columns := (hannounced row rfl).trans hs
      have hlength : cells.length = columns := hvalues.trans hcolumns
      simp only [ends_pure, Option.mem_def, Option.some.injEq, forall_eq']
      exact ⟨hcount, hlength⟩
    case h_2 => trivial

end

section

variable {τ : Type} [FiniteTransport τ] {s s' : Session τ} {sql : String} {set : ResultSet}

/-- A query gives a result set where it is announced, and the fields, as many as
announced, and then the rows are read. The stages are named with the sessions
between them. -/
theorem reads_of_run_query (h : (query sql).run s = .ok (.rows set) s') :
    ∃ s₁ s₂, (execute (Utf8.encode sql)).run s = .ok (.resultSet set.fields.length) s₁
      ∧ readFields.run s₁ = .ok set.fields s₂ ∧ readRows.run s₂ = .ok set.rows s' := by
  obtain ⟨outcome, s₁, hexecute, h⟩ := run_bind_eq_ok_iff.mp h
  -- An OK packet would have made the result a confirmation and no rows.
  cases outcome with
  | done reply => cases h
  | resultSet columns =>
    obtain ⟨fields, s₂, hfields, h⟩ := run_bind_eq_ok_iff.mp h
    obtain ⟨_, s₃, hensure, h⟩ := run_bind_eq_ok_iff.mp h
    obtain ⟨rows, s₄, hrows, h⟩ := run_bind_eq_ok_iff.mp h
    cases h
    rw [run_ensure] at hensure
    split at hensure
    case isTrue hlength =>
      cases hensure
      refine ⟨s₁, s₂, ?_, hfields, hrows⟩
      rw [hexecute, hlength]
    case isFalse => cases hensure

/-- The rows that are read have as many cells as the session has columns. Each round
of the loop gives such a row and leaves the number as it is. -/
theorem length_of_run_readRows {rows : List (List (Option String))}
    (h : readRows.run s = .ok rows s') : ∀ cells ∈ rows, cells.length = s.columnCount := by
  obtain ⟨rows, rfl, -, hyields⟩ := yields_of_run_collect h
  exact hyields.forall_mem (fun _ hs => ends_nextCells_length hs) rfl

/-- A result set that a query has given is a table as wide as it has fields, and the
first packet of the answer announced so many columns. -/
theorem rectangular_of_run_query (h : (query sql).run s = .ok (.rows set) s') :
    set.Rectangular set.fields.length
      ∧ ∃ packet s₁, (ask (Utf8.encode sql)).run s = .ok packet s₁
        ∧ announcedColumns packet.payload = some set.fields.length := by
  obtain ⟨s₁, s₂, hexecute, hfields, hrows⟩ := reads_of_run_query h
  obtain ⟨hcount, hannounced⟩ := ask_of_run_execute hexecute
  -- Reading the fields leaves the number that the rows are compared with.
  have hcount₂ : s₂.columnCount = set.fields.length :=
    ((steady_columnCount _).maintains_readFields s₁ hcount).ok_of_run hfields
  refine ⟨⟨rfl, ?_⟩, hannounced⟩
  intro cells hcells
  rw [length_of_run_readRows hrows cells hcells, hcount₂]

/-- Whatever a server answers, if a query gives a result set then the first packet
of the answer announced one column at least, and the result set has as many fields
and as many cells in each row. Every place in it has the cell that is looked up
there, outside there is none, and a column that is found by its name is the first
one of that name. -/
theorem query_rectangular (s : Session τ) (sql : String) (set : ResultSet)
    (h : ((Operation.query sql).perform s).1.result = .ok (.result (.rows set))) :
    ∃ packet s₁ count, (ask (Utf8.encode sql)).run s = .ok packet s₁
      ∧ Reader.codedInt.run? packet.payload = some count ∧ 1 ≤ count.toNat
      ∧ set.Rectangular count.toNat
      ∧ (∀ row column, row < set.size → column < count.toNat →
        (set.rows[row]?.bind fun cells => cells[column]?) = some (set.get? row column))
      ∧ (∀ row column, ¬ (row < set.size ∧ column < count.toNat) → set.get? row column = none)
      ∧ ∀ name column, set.columnIndex? name = some column → column < count.toNat
        ∧ ∃ field, set.fields[column]? = some field ∧ field.name = name
          ∧ ∀ earlier ∈ set.fields.take column, earlier.name ≠ name := by
  obtain ⟨result, hresult, hrun⟩ := run_eq_ok_of_report h
  cases hresult
  obtain ⟨hset, packet, s₁, hask, hannounced⟩ := rectangular_of_run_query hrun
  obtain ⟨count, hread, hpos, hcount⟩ := announcedColumns_eq_some_iff.mp hannounced
  rw [← hcount] at hset hpos
  refine ⟨packet, s₁, count, hask, hread, hpos, hset, fun _ _ => hset.cell_eq_get?,
    fun _ _ => hset.get?_eq_none, ?_⟩
  intro name column hindex
  obtain ⟨field, hfield, hfirst⟩ := ResultSet.columnIndex?_eq_some_iff.mp hindex
  obtain ⟨hcolumn, -⟩ := List.getElem?_eq_some_iff.mp hfield
  rw [hset.fields] at hcolumn
  exact ⟨hcolumn, field, hfield, hfirst⟩

/-- The number of columns in three bytes where one would do, two columns of one
name, and a row with SQL NULL in it. -/
theorem query_rectangular_wide_count :
    let field : Bytes := [3, 0x64, 0x65, 0x66, 0, 0, 0, 1, 0x61, 0, 12, 33, 0, 255, 0, 0, 0, 253, 0,
      0, 0, 0, 0]
    let answer : List Bytes :=
      [[0xFC, 2, 0], field, field, [0xFE, 0, 0, 2, 0], [0xFB, 1, 0x78], [0xFE, 0, 0, 2, 0]]
    let s := (Operation.connect.perform
      (ofTransport (MemoryTransport.welcoming 7 (Packet.stream 1 answer)) { user := "app" })).2
    let column : Field := {
      database := "", table := "", name := "a", charset := 33, columnLength := 255
      type := .varString, flags := 0, decimals := 0 }
    let set : ResultSet := { fields := [column, column], rows := [[none, some "x"]] }
    ((Operation.query "SELECT a, a FROM t").perform s).1.result = .ok (.result (.rows set))
      ∧ (∃ packet s₁ count, (ask (Utf8.encode "SELECT a, a FROM t")).run s = .ok packet s₁
        ∧ Reader.codedInt.run? packet.payload = some count ∧ set.Rectangular count.toNat)
      ∧ set.get? 0 1 = some "x" ∧ set.get? 0 2 = none ∧ set.columnIndex? "a" = some 0 := by
  intro field answer s column set
  have hresult : ((Operation.query "SELECT a, a FROM t").perform s).1.result
      = .ok (.result (.rows set)) :=
    Report.answer?_eq_some_iff.mp (by decide +kernel)
  obtain ⟨packet, s₁, count, hask, hread, -, hset, -⟩ := query_rectangular s _ set hresult
  exact ⟨hresult, ⟨packet, s₁, count, hask, hread, hset⟩, rfl, rfl, by decide⟩

end

end Session

end SqlWire
