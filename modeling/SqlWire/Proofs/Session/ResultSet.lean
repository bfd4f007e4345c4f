import SqlWire.Proofs.Collect
import SqlWire.Proofs.Config
import SqlWire.Proofs.Row
import SqlWire.Proofs.Session.Reachable
import SqlWire.Proofs.Transport.Memory

/-!
# A query gives the result set that the server sent

`ResultReply` is a result set as a server sends it, and `query_rows` says that a
query that is answered with it gives it, and takes neither more nor less from the
transport than its packets.

The proof goes along the packets. `Session.Expects` says which payloads come next,
and `Session.Onward` what reading some packets changes of a session: the bytes to
come, the number that is due, and the journal. A read that takes one packet
(`Takes`) and stops at an end marker (`Stops`) turns the packets into the rounds of
its loop, by induction on the packets (`yields_of_takes`). The loops for fields and
for rows are two cases of this.
-/

set_option autoImplicit false

namespace SqlWire

open SqlWire.Action

/-- A result set as a server sends it: the header, the fields and the end marker
behind them, the rows and the end marker behind these. -/
structure ResultReply where
  columnCount : UInt64
  /-- The fields, each with what stands in its packet behind the descriptor. -/
  fields : List (FieldPacket × Bytes)
  fieldsEnd : EofReply
  /-- The cells of each row, `none` for SQL NULL. -/
  rows : List (List (Option Bytes))
  rowsEnd : EofReply
deriving DecidableEq, Repr

namespace ResultReply

/-- The payload of a field's packet: the descriptor, and behind it what a server may
add for its own use. -/
def fieldPayload (field : FieldPacket × Bytes) : Bytes :=
  field.1.encode ++ field.2

/-- The payloads in the order in which they are sent. The packets carry them under
consecutive numbers. -/
def payloads (r : ResultReply) : List Bytes :=
  LengthCoded.encode r.columnCount :: (r.fields.map fieldPayload
    ++ r.fieldsEnd.encode :: (r.rows.map Row.encode ++ [r.rowsEnd.encode]))

/-- There are as many fields, and cells in each row, as are announced, and each
payload fits one packet. Nothing is asked of the texts, which may be any bytes. -/
structure WellFormed (r : ResultReply) : Prop where
  columnCount : r.columnCount ≠ 0
  fields : r.fields.length = r.columnCount.toNat
  rows : ∀ cells ∈ r.rows, cells.length = r.columnCount.toNat
  short : ∀ payload ∈ r.payloads, payload.length < maxPayload

/-- The result set that a client keeps: the descriptors without the strings that are
passed over, and the cells as texts. -/
def resultSet (r : ResultReply) : ResultSet where
  fields := r.fields.map fun field => field.1.field
  rows := r.rows.map Row.texts

end ResultReply

namespace Session

variable {s s₁ s₂ : Session MemoryTransport} {payload rest : Bytes} {more : List Bytes}

/-- The given payloads come next, with the numbers that are due, and then the given
bytes. There is a poll to spend on them too. -/
structure Expects (s : Session MemoryTransport) (payloads : List Bytes) (rest : Bytes) : Prop where
  readAttempts : 0 < s.channel.readAttempts
  incoming : s.channel.transport.incoming
    = Packet.stream s.channel.sequence payloads ++ rest
  short : ∀ payload ∈ payloads, payload.length < maxPayload

/-- The second session is the first one so many packets later. The journal may have
grown by anything, and nothing else differs. -/
def Onward (packets : Nat) (s s' : Session MemoryTransport) : Prop :=
  ∃ incoming journal, s' = { s with
    channel := { s.channel with
      transport := { s.channel.transport with incoming }
      sequence := s.channel.sequence + UInt8.ofNat packets
      journal } }

/-- Packets that are read one behind the other add up. The numbers wrap around
together, since they are counted in a byte. -/
theorem Onward.trans {k l : Nat} (h : Onward k s s₁) (h' : Onward l s₁ s₂) :
    Onward (k + l) s s₂ := by
  obtain ⟨_, _, rfl⟩ := h
  obtain ⟨incoming, journal, rfl⟩ := h'
  refine ⟨incoming, journal, ?_⟩
  rw [UInt8.ofNat_add, ← UInt8.add_assoc]

/-- Reading packets leaves the number of announced columns, so each of the rows is
read against the same number. -/
theorem Onward.columnCount {k : Nat} (h : Onward k s s₁) : s₁.columnCount = s.columnCount := by
  obtain ⟨_, _, rfl⟩ := h
  rfl

/-- The session after an end marker, which says two things that are kept: the
warnings and the status. -/
def ended (reply : EofReply) (s : Session MemoryTransport) : Session MemoryTransport :=
  { s with warnings := reply.warnings, statusFlags := reply.statusFlags }

/-- What is kept of an end marker can be kept before the packets are read as well,
for none of them looks at it. -/
theorem Onward.ended {k : Nat} (h : Onward k s s₁) (reply : EofReply) :
    Onward k (s.ended reply) (s₁.ended reply) := by
  obtain ⟨incoming, journal, rfl⟩ := h
  exact ⟨incoming, journal, rfl⟩

/-- The session after the announcement of a result set, with the number of columns
and the event that tells of it. -/
def announced (columnCount : Nat) (s : Session MemoryTransport) : Session MemoryTransport :=
  { s with columnCount, channel := s.channel.noted (.resultSet columnCount) }

/-- The announcement can be taken before the packets as well. It enters an event,
and a later session has that among the events in between. -/
theorem Onward.announced {k : Nat} (h : Onward k s s₁) (columnCount : Nat) :
    Onward k (s.announced columnCount) (s₁.announced columnCount) := by
  obtain ⟨incoming, journal, rfl⟩ := h
  exact ⟨incoming, .resultSet columnCount :: journal, rfl⟩

/-- An announcement takes no bytes, so what is to come stays to come. -/
theorem Expects.announced (h : s.Expects more rest) (columnCount : Nat) :
    (s.announced columnCount).Expects more rest :=
  ⟨h.readAttempts, h.incoming, h.short⟩

/-- Nor does what is kept of an end marker. -/
theorem Expects.ended (h : s.Expects more rest) (reply : EofReply) :
    (s.ended reply).Expects more rest :=
  ⟨h.readAttempts, h.incoming, h.short⟩

/-- The next payload is received, and the session goes on behind it: the number due
is one more, and the bytes of the packet are gone. -/
theorem Expects.run_receive (h : s.Expects (payload :: more) rest) :
    ∃ s', receive.run s = .ok ⟨s.channel.sequence, payload⟩ s' ∧ s'.Expects more rest
      ∧ Onward 1 s s' := by
  -- The first frame is split off the stream, and the rest begins at the next number.
  have hincoming : s.channel.transport.incoming
      = Packet.frame ⟨s.channel.sequence, payload⟩
        ++ (Packet.stream (s.channel.sequence + 1) more ++ rest) := by
    rw [h.incoming, Packet.stream_cons, List.append_assoc]
  have hlength : payload.length < 0x1000000 :=
    Nat.lt_trans (h.short payload List.mem_cons_self) (by decide)
  obtain ⟨journal, hrun⟩ := Channel.run_receive_frame h.readAttempts hincoming rfl hlength
  have hreceive : receive.run s = .ok ⟨s.channel.sequence, payload⟩ { s with
      channel := { s.channel with
        transport := { s.channel.transport with
          incoming := Packet.stream (s.channel.sequence + 1) more ++ rest }
        sequence := s.channel.sequence + 1
        journal } } := by
    simp only [receive, onChannel, run_focus, hrun]
  refine ⟨_, hreceive, ?_, _, journal, rfl⟩
  refine ⟨h.readAttempts, rfl, ?_⟩
  intro p hp
  exact h.short p (List.mem_cons_of_mem _ hp)

/-! ### One packet at a time -/

variable {α : Type} {step : SessionM MemoryTransport (Option α)}

/-- Wherever the payload comes next, in a result set of so many columns, the step
takes it for the value. This is said of all sessions at once, since a loop comes
upon the payload in a session that the rounds before have changed. -/
def Takes (step : SessionM MemoryTransport (Option α)) (columnCount : Nat) (payload : Bytes)
    (value : α) : Prop :=
  ∀ (s : Session MemoryTransport) (more : List Bytes) (rest : Bytes),
    s.columnCount = columnCount → s.Expects (payload :: more) rest →
    ∃ s', step.run s = .ok (some value) s' ∧ s'.Expects more rest ∧ Onward 1 s s'

/-- Wherever an end marker comes next, the step keeps what it says and gives no
value, which is what ends a loop. -/
def Stops (step : SessionM MemoryTransport (Option α)) : Prop :=
  ∀ (s : Session MemoryTransport) (more : List Bytes) (rest : Bytes) (reply : EofReply),
    s.Expects (reply.encode :: more) rest →
    ∃ s', step.run s = .ok none s' ∧ s'.Expects more rest ∧ Onward 1 (s.ended reply) s'

/-- A field's packet is taken for the descriptor that it carries. What stands behind
the descriptor is passed over with the packet. -/
theorem takes_nextField (columnCount : Nat) (field : FieldPacket × Bytes) :
    Takes nextField columnCount (ResultReply.fieldPayload field) field.1.field := by
  intro s more rest _ h
  obtain ⟨s', hrun, hexpects, honward⟩ := h.run_receive
  refine ⟨s', ?_, hexpects, honward⟩
  have hlength : field.1.encode.length < UInt64.size := by
    have hshort := h.short _ List.mem_cons_self
    have hsize : maxPayload < UInt64.size := by decide
    rw [ResultReply.fieldPayload, List.length_append] at hshort
    omega
  have hparse := FieldPacket.parse?_encode_append (.of_length_encode hlength) field.2
  rw [nextField, EStateM.run_bind, hrun]
  -- An empty catalog makes the packet look like a confirmation; both kinds are read alike.
  rcases Packet.isContent_field s.channel.sequence field.1 field.2 with hkind | hkind
  · simp only [ResultReply.fieldPayload, hkind, hparse, EStateM.run_pure]
  · simp only [ResultReply.fieldPayload, hkind, hparse, EStateM.run_pure]

/-- Where fields are read, an end marker is kept and ends them. It is not mistaken
for a descriptor. -/
theorem stops_nextField : Stops nextField := by
  intro s more rest reply h
  obtain ⟨s', hrun, hexpects, honward⟩ := h.run_receive
  refine ⟨s'.ended reply, ?_, hexpects.ended reply, honward.ended reply⟩
  simp only [nextField, EStateM.run_bind, hrun, Packet.kind_eof, decodeEof, decode,
    reply.reads_encode.run?, EStateM.run_pure, recordEof, EStateM.run_modify]
  rfl

/-- A row's packet is taken for the texts of its cells. The row has one cell at
least, or its payload would be empty and no content. -/
theorem takes_nextCells {cells : List (Option Bytes)} (hcells : cells ≠ []) :
    Takes nextCells cells.length (Row.encode cells) (Row.texts cells) := by
  intro s more rest hcount h
  obtain ⟨s', hrun, hexpects, honward⟩ := h.run_receive
  refine ⟨s', ?_, hexpects, honward⟩
  have hlength : (Row.encode cells).length < UInt64.size :=
    Nat.lt_trans (h.short _ List.mem_cons_self) (by decide)
  have hvalues := Row.run_values_encode hlength
  have hrow : nextRow.run s = .ok (some (.ofPayload (Row.encode cells) cells.length)) s' := by
    rw [nextRow, EStateM.run_bind, hrun, ← hcount, ← honward.columnCount]
    rcases Packet.isContent_row s.channel.sequence hcells with hkind | hkind
    · simp only [hkind, EStateM.run_bind, EStateM.run_get, EStateM.run_pure]
    · simp only [hkind, EStateM.run_bind, EStateM.run_get, EStateM.run_pure]
  simp only [nextCells, EStateM.run_bind, hrow, hvalues, EStateM.run_pure]

/-- Where rows are read, an end marker is kept and ends them as well. It is not
mistaken for a row. -/
theorem stops_nextCells : Stops nextCells := by
  intro s more rest reply h
  obtain ⟨s', hrun, hexpects, honward⟩ := h.run_receive
  refine ⟨s'.ended reply, ?_, hexpects.ended reply, honward.ended reply⟩
  simp only [nextCells, nextRow, EStateM.run_bind, hrun, Packet.kind_eof, decodeEof, decode,
    reply.reads_encode.run?, EStateM.run_pure, recordEof, EStateM.run_modify]
  rfl

/-! ### The loops -/

/-- Packets that a step takes, and the end marker behind them, are the rounds of its
loop. The induction is on the packets, from any session that expects them. -/
theorem yields_of_takes {ι : Type} {columnCount : Nat} {payload : ι → Bytes} {value : ι → α}
    {items : List ι} (htakes : ∀ x ∈ items, Takes step columnCount (payload x) (value x))
    (hstops : Stops step) {reply : EofReply} (hcount : s.columnCount = columnCount)
    (h : s.Expects (items.map payload ++ reply.encode :: more) rest) :
    ∃ s', Yields step s (items.map value) s' ∧ s'.Expects more rest
      ∧ Onward (items.length + 1) (s.ended reply) s' := by
  induction items generalizing s with
  | nil =>
    obtain ⟨s', hrun, hexpects, honward⟩ := hstops s more rest reply h
    exact ⟨s', .none hrun, hexpects, honward⟩
  | cons x items ih =>
    -- The step leaves the column count, so what it takes next is a packet of the same result set.
    obtain ⟨s₁, hrun, hexpects₁, honward₁⟩ := htakes x List.mem_cons_self s _ rest hcount h
    have hcount₁ : s₁.columnCount = columnCount := honward₁.columnCount.trans hcount
    have htakes₁ : ∀ y ∈ items, Takes step columnCount (payload y) (value y) := by
      intro y hy
      exact htakes y (List.mem_cons_of_mem _ hy)
    obtain ⟨s', hyields, hexpects, honward⟩ := ih htakes₁ hcount₁ hexpects₁
    refine ⟨s', .some hrun hyields, hexpects, ?_⟩
    rw [List.length_cons, Nat.add_comm items.length 1, Nat.add_assoc]
    exact (honward₁.ended reply).trans honward

/-- The loop gives the values up to the end marker: the bytes to come suffice for
its rounds. So it makes no difference that its rounds are bounded. -/
theorem run_collect_of_takes {ι : Type} {columnCount : Nat} {payload : ι → Bytes} {value : ι → α}
    {items : List ι} (htakes : ∀ x ∈ items, Takes step columnCount (payload x) (value x))
    (hstops : Stops step) {reply : EofReply} (hcount : s.columnCount = columnCount)
    (h : s.Expects (items.map payload ++ reply.encode :: more) rest) :
    ∃ s', (collect step s.packetBound []).run s = .ok (items.map value) s' ∧ s'.Expects more rest
      ∧ Onward (items.length + 1) (s.ended reply) s' := by
  obtain ⟨s', hyields, hexpects, honward⟩ := yields_of_takes htakes hstops hcount h
  refine ⟨s', ?_, hexpects, honward⟩
  -- Every packet holds a byte at least, so the backlog bounds the rounds.
  have hbacklog : items.length ≤ s.channel.transport.incoming.length := by
    have hstream := Packet.length_le_length_stream s.channel.sequence
      (items.map payload ++ reply.encode :: more)
    rw [List.length_append, List.length_map] at hstream
    rw [h.incoming, List.length_append]
    omega
  have hfuel : (items.map value).length < s.packetBound := by
    rw [List.length_map]
    exact Nat.lt_succ_of_le hbacklog
  exact run_collect_of_yields hyields hfuel []

/-- The fields are read up to their end marker, as many as there are. Whether these
are as many as announced is checked behind them. -/
theorem run_readFields {fields : List (FieldPacket × Bytes)} {reply : EofReply}
    (h : s.Expects (fields.map ResultReply.fieldPayload ++ reply.encode :: more) rest) :
    ∃ s', readFields.run s = .ok (fields.map fun field => field.1.field) s' ∧ s'.Expects more rest
      ∧ Onward (fields.length + 1) (s.ended reply) s' :=
  run_collect_of_takes (fun field _ => takes_nextField _ field) stops_nextField rfl h

/-- So are the rows, if each has as many cells as were announced and that is one at
least. -/
theorem run_readRows {rows : List (List (Option Bytes))} {reply : EofReply}
    (hcolumns : s.columnCount ≠ 0) (hrows : ∀ cells ∈ rows, cells.length = s.columnCount)
    (h : s.Expects (rows.map Row.encode ++ reply.encode :: more) rest) :
    ∃ s', readRows.run s = .ok (rows.map Row.texts) s' ∧ s'.Expects more rest
      ∧ Onward (rows.length + 1) (s.ended reply) s' := by
  refine run_collect_of_takes ?_ stops_nextCells rfl h
  intro cells hcells
  have hne : cells ≠ [] := by
    rintro rfl
    exact hcolumns (hrows [] hcells).symm
  rw [← hrows cells hcells]
  exact takes_nextCells hne

/-! ### The command -/

/-- The session after a query has been sent: the packet stands behind what was
written, the next number is one, and the journal tells of it. -/
def asked (sql : Bytes) (s : Session MemoryTransport) : Session MemoryTransport :=
  { s with
    channel := { s.channel with
      transport := { s.channel.transport with
        written := s.channel.transport.written
          ++ Packet.frame ⟨0, Command.query.payload sql⟩ }
      sequence := 1
      journal := .sent 0 (Command.query.payload sql) :: s.channel.journal } }

/-- Sending over memory puts the packet behind the bytes written. It needs a
connection and a payload that one packet can hold. -/
theorem run_send {payload : Bytes} (hconnected : s.channel.transport.connected = true)
    (hlength : payload.length < maxPayload) :
    (send payload).run s = .ok () { s with
      channel := { s.channel with
        transport := { s.channel.transport with
          written := s.channel.transport.written
            ++ Packet.frame ⟨s.channel.sequence, payload⟩ }
        sequence := s.channel.sequence + 1
        journal := .sent s.channel.sequence payload :: s.channel.journal } } := by
  simp only [send, onChannel, Channel.send, Channel.onTransport, Channel.note, Channel.noted,
    run_focus, EStateM.run_bind, run_ensure, if_pos hlength, EStateM.run_get, EStateM.run_modify,
    EStateM.run_adaptExcept, MemoryTransport.run_write hconnected]

/-- A query whose answer begins with the header of a result set announces it, and
goes on behind the header. The session is in a condition to ask: it is authenticated
over a connected transport, and the query is not too long. -/
theorem run_execute {sql : Bytes} {n : UInt64} (hn : n ≠ 0) (hs : s.Workable)
    (hstate : s.state = .authenticated) (hconnected : s.channel.transport.connected = true)
    (hsql : sql.length ≤ s.config.maxQuerySize.toNat)
    (hincoming : s.channel.transport.incoming
      = Packet.stream 1 (LengthCoded.encode n :: more) ++ rest)
    (hshort : ∀ payload ∈ LengthCoded.encode n :: more, payload.length < maxPayload) :
    ∃ s', (execute sql).run s = .ok (.resultSet n.toNat) s' ∧ s'.Expects more rest
      ∧ Onward 1 ((s.asked sql).announced n.toNat) s' := by
  obtain ⟨hlimit, hfits⟩ := Config.fits_of_validate (hs.valid hstate) hsql
  have hsend : (send (Command.query.payload sql)).run
      { s with channel := { s.channel with sequence := 0 } } = .ok () (s.asked sql) :=
    run_send hconnected hfits
  have hexpects : (s.asked sql).Expects (LengthCoded.encode n :: more) rest :=
    ⟨hs.readAttempts, hincoming, hshort⟩
  obtain ⟨s', hrun, hexpects', honward⟩ := hexpects.run_receive
  -- The encoding of a count that is not 0 is no OK, ERR or EOF packet.
  have hkind := Packet.kind_encode_append (s.asked sql).channel.sequence n []
  rw [List.append_nil, if_neg hn] at hkind
  have hcolumns : announcedColumns (LengthCoded.encode n) = some n.toNat := by
    simp [announcedColumns, (Reader.reads_codedInt n).run?, hn]
  refine ⟨s'.announced n.toNat, ?_, hexpects'.announced n.toNat, honward.announced n.toNat⟩
  simp only [execute, requireReady, startExchange, Channel.resetSequence, onChannel, run_focus,
    EStateM.run_bind, EStateM.run_get, run_ensure, if_pos hstate, if_pos hlimit, EStateM.run_modify,
    hsend, hrun, hkind, hcolumns, note, Channel.note, EStateM.run_pure]
  rfl

/-- A query that is answered with a well-formed result set gives this result set:
the fields with their texts decoded, and in each row a text or `none` for each cell.
It takes the bytes of the answer from the transport and leaves those behind them,
and it writes the query and nothing else. Of the session it changes the column
count, the two words of the last end marker, the number that is due and the journal. -/
theorem query_rows (s : Session MemoryTransport) (hs : s.Reachable)
    (hstate : s.state = .authenticated) (hconnected : s.channel.transport.connected = true)
    (sql : String) (hsql : (Utf8.encode sql).length ≤ s.config.maxQuerySize.toNat)
    (reply : ResultReply) (hreply : reply.WellFormed) (trailing : Bytes)
    (hincoming : s.channel.transport.incoming
      = Packet.stream 1 reply.payloads ++ trailing) :
    ∃ journal, (query sql).run s = .ok (.rows reply.resultSet) { s with
      channel := { s.channel with
        transport := { s.channel.transport with
          incoming := trailing
          written := s.channel.transport.written
            ++ Packet.frame ⟨0, Command.query.payload (Utf8.encode sql)⟩ }
        sequence := 1 + UInt8.ofNat reply.payloads.length
        journal }
      columnCount := reply.fields.length
      warnings := reply.rowsEnd.warnings
      statusFlags := reply.rowsEnd.statusFlags } := by
  obtain ⟨s₁, hexecute, hexpects₁, honward₁⟩ := run_execute hreply.columnCount hs.workable hstate
    hconnected hsql hincoming hreply.short
  obtain ⟨s₂, hfields, hexpects₂, honward₂⟩ := run_readFields hexpects₁
  have hcount : s₂.columnCount = reply.columnCount.toNat :=
    honward₂.columnCount.trans honward₁.columnCount
  have hcolumns : s₂.columnCount ≠ 0 := by
    rw [hcount]
    intro hzero
    exact hreply.columnCount (UInt64.toNat_inj.mp hzero)
  have hcells : ∀ cells ∈ reply.rows, cells.length = s₂.columnCount := by
    intro cells hmem
    rw [hcount]
    exact hreply.rows cells hmem
  obtain ⟨s₃, hrows, hexpects₃, honward₃⟩ := run_readRows hcolumns hcells hexpects₂
  -- Header, fields and rows in a row: the marker of the rows overwrites that of the fields.
  have hfieldsRead := (honward₁.ended reply.fieldsEnd).trans honward₂
  have honward := (hfieldsRead.ended reply.rowsEnd).trans honward₃
  have hnumber : 1 + (reply.fields.length + 1) + (reply.rows.length + 1)
      = reply.payloads.length := by
    simp only [ResultReply.payloads, List.length_cons, List.length_append, List.length_map,
      List.length_nil]
    omega
  have hlength : (reply.fields.map fun field => field.1.field).length
      = reply.columnCount.toNat := by
    rw [List.length_map, hreply.fields]
  rw [hnumber] at honward
  obtain ⟨incoming, journal, rfl⟩ := honward
  have htrailing : incoming = trailing := hexpects₃.incoming
  refine ⟨journal, ?_⟩
  simp only [query, EStateM.run_bind, hexecute, hfields, run_ensure, if_pos hlength, hrows,
    EStateM.run_pure, htrailing, hreply.fields]
  rfl

/-- A column whose catalog is empty, and under it an empty text, SQL NULL and a
text: the first packets of the fields and of the rows begin as a confirmation does.
The byte behind the answer stays. -/
theorem query_rows_after_login :
    let greeting : Bytes := [10, 0x35, 0, 7, 0, 0, 0, 1, 1, 1, 1, 1, 1, 1, 1, 0, 0, 2, 8, 2, 0, 0,
      0, 0, 0, 0, 0, 0, 0, 0, 0, 0, 0, 0, 2, 2, 2, 2, 2, 2, 2, 2, 2, 2, 2, 2, 0]
    let server : MemoryTransport := {
      incoming := Packet.frame ⟨0, greeting⟩ ++ Packet.frame ⟨2, [0, 0, 0, 2, 0, 0, 0]⟩ }
    let column : FieldPacket := {
      catalog := some [], database := [], table := [], baseTable := none, name := [0x61]
      baseName := some [0x61], blockLength := 12, charset := 33, columnLength := 255
      typeCode := 253, flags := 0, decimals := 0 }
    let reply : ResultReply := {
      columnCount := 1, fields := [(column, [0, 0])], fieldsEnd := ⟨0, 2⟩
      rows := [[some []], [none], [some [0x6F, 0x6B]]], rowsEnd := ⟨1, 34⟩ }
    let s := (Operation.connect.perform (ofTransport server { user := "app" })).2.mapTransport
      (·.push (Packet.stream 1 reply.payloads ++ [7]))
    s.Reachable ∧ s.state = .authenticated ∧ reply.WellFormed
      ∧ ∃ s', (query "SELECT a FROM t").run s = .ok (.rows reply.resultSet) s'
        ∧ s'.channel.transport.incoming = [7] ∧ s'.channel.sequence = 8
        ∧ reply.resultSet.columnNames = ["a"]
        ∧ reply.resultSet.rows = [[some ""], [none], [some "ok"]] := by
  intro greeting server column reply s
  have hs : s.Reachable := .mapTransport _ (.perform .connect (.ofTransport server _))
  have hstate : s.state = .authenticated := by decide +kernel
  have hreply : reply.WellFormed := ⟨by decide, rfl, by decide, by decide⟩
  obtain ⟨journal, hrun⟩ := query_rows s hs hstate (by decide +kernel) "SELECT a FROM t"
    (by decide +kernel) reply hreply [7] (by decide +kernel)
  exact ⟨hs, hstate, hreply, _, hrun, rfl, rfl, by decide +kernel, by decide +kernel⟩

end Session

end SqlWire
