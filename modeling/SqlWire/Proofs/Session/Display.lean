import SqlWire.Proofs.Session.Rectangular

/-!
# What is shown is what is queried

`query` reads a result set whole and gives it back; `execute` and then `showResults`
read the same packets and write them out one by one. Where the first succeeds so
does the second, on an output that has room: it writes the lines of that very result
set (`ResultSet.shown`), gives the number of its rows, and leaves the session as the
query does (`run_execute_showResults`).

Both read fields with the same loop. The rows are read by two, of which one writes
between its rounds; `yields_showRow` goes through the rounds of the one and makes
those of the other.
-/

set_option autoImplicit false

namespace SqlWire

open SqlWire.Action

namespace ResultSet

/-- The lines that a result set is shown in: the names of its columns, its rows with
SQL NULL written as such, and how many rows there are. -/
def lines (set : ResultSet) : List String :=
  ",".intercalate set.columnNames
    :: (set.rows.map fun cells => ",".intercalate (cells.map fun cell => cell.getD "NULL"))
      ++ [s!"{set.size} rows in result."]

/-- A line with its end, as it is written: the text in UTF-8 and a line feed. -/
def lineBytes (line : String) : Bytes :=
  Utf8.encode line ++ [0x0A]

/-- The bytes that a result set is shown in, line by line. -/
def shown (set : ResultSet) : Bytes :=
  set.lines.flatMap lineBytes

/-- The names come first, then the rows, and their number last. These are the three
stretches that the display writes one after the other. -/
theorem shown_eq (set : ResultSet) :
    set.shown
      = lineBytes (",".intercalate (set.fields.map Field.name))
        ++ ((set.rows.flatMap fun cells => lineBytes (Session.rowLine cells))
          ++ lineBytes (Session.countLine set.rows.length)) := by
  simp only [shown, lines, List.cons_append, List.flatMap_cons, List.flatMap_append,
    List.flatMap_map, List.flatMap_nil, List.append_nil]
  rfl

end ResultSet

namespace Sink

variable {k : Sink} {bs bs' : Bytes}

/-- The bytes still fit. An output without a capacity has room for any. -/
def HasRoom (k : Sink) (bs : Bytes) : Prop :=
  ∀ capacity ∈ k.capacity, k.size + bs.length ≤ capacity

/-- To write twice is to write what both writes have. So what a display has written
can be told as one string of bytes. -/
@[simp] theorem append_append (k : Sink) (bs bs' : Bytes) :
    (k.append bs).append bs' = k.append (bs ++ bs') := by
  simp [append, Nat.add_assoc]

/-- What is written is at the end of the contents, and nothing written earlier is
lost. -/
@[simp] theorem contents_append (k : Sink) (bs : Bytes) :
    (k.append bs).contents = k.contents ++ bs := by
  simp [append, contents]

/-- Room for both is room for the first, which is written while the other still has
to fit. -/
theorem HasRoom.of_append (h : k.HasRoom (bs ++ bs')) : k.HasRoom bs := by
  intro capacity hcapacity
  have hall := h capacity hcapacity
  rw [List.length_append] at hall
  omega

/-- What is written takes its own room and no more, so what is to come still fits. -/
theorem HasRoom.append (h : k.HasRoom (bs ++ bs')) : (k.append bs).HasRoom bs' := by
  intro capacity hcapacity
  have hall := h capacity hcapacity
  rw [List.length_append] at hall
  show k.size + bs.length + bs'.length ≤ capacity
  omega

/-- Bytes that fit are written whole. Where they do not, the output fails, which is
the case that the room excludes. -/
theorem run_write (h : k.HasRoom bs) : (write bs).run k = .ok () (k.append bs) := by
  simp only [write, EStateM.run_bind, EStateM.run_get]
  split
  case h_1 => rfl
  case h_2 capacity hcapacity =>
    have hroom := h capacity hcapacity
    have hfits : ¬ capacity < k.size + bs.length := by omega
    have htake : bs.take (capacity - k.size) = bs := List.take_of_length_le (by omega)
    rw [htake, if_neg hfits]
    rfl

end Sink

namespace Session

section

variable {τ : Type} {s s' : Session τ} {k : Sink}

/-- A line that fits is written with its end, and the session is the same. -/
theorem run_writeLine {text : String} (h : k.HasRoom (ResultSet.lineBytes text)) :
    (writeLine text).run (s, k) = .ok () (s, k.append (ResultSet.lineBytes text)) := by
  have hwrite := Sink.run_write h
  rw [ResultSet.lineBytes] at hwrite ⊢
  simp only [writeLine, run_focus, EStateM.run_adaptExcept, hwrite]

variable [Transport τ]

/-- At the end marker nothing is written, so the end of the rows needs no room. -/
theorem run_showRow_none (h : nextCells.run s = .ok none s') :
    showRow.run (s, k) = .ok none (s', k) := by
  simp only [showRow, besideSink, EStateM.run_bind, run_focus, h]
  rfl

/-- A row that has been read is written as its line. The session is the one that
reading it has left. -/
theorem run_showRow_some {cells : List (Option String)} (h : nextCells.run s = .ok (some cells) s')
    (hroom : k.HasRoom (ResultSet.lineBytes (rowLine cells))) :
    showRow.run (s, k)
      = .ok (some ()) (s', k.append (ResultSet.lineBytes (rowLine cells))) := by
  simp only [showRow, besideSink, EStateM.run_bind, run_focus, h, run_writeLine hroom]
  rfl

/-- Rows that can be read can be shown as they are read, in as many rounds. The
induction is on the rounds, with the room for the lines to come. -/
theorem yields_showRow {rows : List (List (Option String))} (h : Yields nextCells s rows s')
    (hroom : k.HasRoom (rows.flatMap fun cells => ResultSet.lineBytes (rowLine cells))) :
    Yields showRow (s, k) (rows.map fun _ => ())
      (s', k.append (rows.flatMap fun cells => ResultSet.lineBytes (rowLine cells))) := by
  -- The output grows from round to round, so the induction is about any that has room.
  induction h generalizing k with
  | none h => exact .none (run_showRow_none h)
  | some h hrest ih =>
    rw [List.flatMap_cons] at hroom ⊢
    rw [← Sink.append_append]
    exact .some (run_showRow_some h hroom.of_append) (ih hroom.append)

end

section

variable {τ : Type} [FiniteTransport τ] {s s₁ s₂ s' : Session τ} {set : ResultSet} {k : Sink}

/-- A result set that can be read can be shown on an output that has room for it.
What the display writes takes up the room in three stretches, and each has what it
needs. -/
theorem run_showResults (hfields : readFields.run s₁ = .ok set.fields s₂)
    (hrows : readRows.run s₂ = .ok set.rows s') (hroom : k.HasRoom set.shown) :
    showResults.run (s₁, k) = .ok set.rows.length (s', k.append set.shown) := by
  obtain ⟨rows, hvalues, hfuel, hyields⟩ := yields_of_run_collect hrows
  obtain rfl : set.rows = rows := hvalues
  rw [ResultSet.shown_eq] at hroom ⊢
  have hnames := run_writeLine (s := s₂) hroom.of_append
  -- The loop of the display has the fuel of the other one, and needs it for as many rounds.
  have hshown := yields_showRow hyields hroom.append.of_append
  rw [← List.length_map (f := fun _ => ())] at hfuel
  have hloop := run_collect_of_yields hshown hfuel []
  have hcount := run_writeLine (s := s') hroom.append.append
  simp only [showResults, besideSink, EStateM.run_bind, run_focus, hfields, hnames,
    EStateM.run_get]
  rw [hloop]
  simp only [List.reverse_nil, List.nil_append, List.length_map, hcount]
  rw [Sink.append_append, Sink.append_append]
  rfl

/-- If a query gives a result set, then executing it and showing the results on an
output with room for the lines of that set announces as many columns as it has
fields, writes exactly these lines, counts its rows, and leaves the session, and
with it the transport, as the query leaves them. -/
theorem run_execute_showResults (s : Session τ) (sql : String) (set : ResultSet)
    (capacity : Option Nat) (hroom : ∀ bytes ∈ capacity, set.shown.length ≤ bytes)
    (h : ((Operation.query sql).perform s).1.result = .ok (.result (.rows set))) :
    run [.execute (Utf8.encode sql), .showResults capacity] s
      = ([⟨.ok (.outcome (.resultSet set.fields.length)), []⟩,
          ⟨.ok (.shown set.rows.length), set.shown⟩],
        ((Operation.query sql).perform s).2) := by
  obtain ⟨result, hresult, hrun⟩ := run_eq_ok_of_report h
  cases hresult
  obtain ⟨s₁, s₂, hexecute, hfields, hrows⟩ := reads_of_run_query hrun
  -- The output is empty at first, so all its room is there for the lines.
  have hsink : Sink.HasRoom { capacity } set.shown := by
    intro bytes hbytes
    show 0 + set.shown.length ≤ bytes
    rw [Nat.zero_add]
    exact hroom bytes hbytes
  have hshow := run_showResults hfields hrows hsink
  have hcontents : (Sink.append { capacity } set.shown).contents = set.shown :=
    Sink.contents_append _ _
  simp only [run, Operation.perform, Operation.report, hexecute, hshow, hcontents]

end

/-- Two columns and two rows, one with SQL NULL in it, on an output of just as many
bytes. -/
theorem run_execute_showResults_exact_capacity :
    let field (name : UInt8) : Bytes := [3, 0x64, 0x65, 0x66, 0, 0, 0, 1, name, 0, 12, 33, 0, 255,
      0, 0, 0, 253, 0, 0, 0, 0, 0]
    let answer : List Bytes := [[2], field 0x61, field 0x62, [0xFE, 0, 0, 2, 0], [0xFB, 1, 0x78],
      [1, 0x79, 0], [0xFE, 1, 0, 2, 0]]
    let s := (Operation.connect.perform
      (ofTransport (MemoryTransport.welcoming 7 (Packet.stream 1 answer)) { user := "app" })).2
    let column (name : String) : Field := {
      database := "", table := "", name, charset := 33, columnLength := 255
      type := .varString, flags := 0, decimals := 0 }
    let set : ResultSet := {
      fields := [column "a", column "b"]
      rows := [[none, some "x"], [some "y", some ""]] }
    ((Operation.query "SELECT a, b FROM t").perform s).1.result = .ok (.result (.rows set))
      ∧ set.shown = Utf8.encode "a,b\nNULL,x\ny,\n2 rows in result.\n"
      ∧ run [.execute (Utf8.encode "SELECT a, b FROM t"), .showResults (some 32)] s
        = ([⟨.ok (.outcome (.resultSet 2)), []⟩, ⟨.ok (.shown 2), set.shown⟩],
          ((Operation.query "SELECT a, b FROM t").perform s).2) := by
  intro field answer s column set
  have hresult : ((Operation.query "SELECT a, b FROM t").perform s).1.result
      = .ok (.result (.rows set)) :=
    Report.answer?_eq_some_iff.mp (by decide +kernel)
  have hroom : ∀ bytes ∈ some 32, set.shown.length ≤ bytes := by decide +kernel
  exact ⟨hresult, by decide +kernel, run_execute_showResults s _ set (some 32) hroom hresult⟩

end Session

end SqlWire
