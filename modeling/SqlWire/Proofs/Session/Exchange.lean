import SqlWire.Proofs.Collect
import SqlWire.Proofs.Config
import SqlWire.Proofs.Row
import SqlWire.Proofs.Session.Frame
import SqlWire.Proofs.Transport.Turns

/-!
# What a session says and hears

An exchange is what the client says and the packets that the server answers with.
Wherever a session reads, it has read whole packets with consecutive numbers so far,
none of which was an error (`Accepted`). When a reading fails, there are two ways to
it (`Cut`). Either an ERR packet has come, which was the last packet read and which
the error is made from. Or the exchange is lost: no ERR packet has come that could
be read, and the error is one of the connection.

Each operation that reads is described in these terms, for every transport that a
tally can be kept of: `ends_execute`, `ends_ping`, `ends_nextField`, `ends_nextRow`,
`ends_query`, `ends_showResults`. The loops over fields and rows are one induction
(`ends_collect`) on top of what one packet does.
-/

set_option autoImplicit false

namespace SqlWire

open SqlWire.Action Turn

/-- An ERR packet is one whose payload begins with the marker. Of the other first
bytes none makes one, nor does an empty payload. -/
theorem Packet.kind_eq_error_iff (p : Packet) :
    p.kind = .error ↔ p.payload.head? = some ErrReply.marker := by
  obtain ⟨sequence, _ | ⟨first, rest⟩⟩ := p
  · simp [kind]
  · simp only [kind, PacketKind.ofFirstByte, ErrReply.marker, List.head?_cons, Option.some.injEq]
    split
    case isTrue hok => simp [hok]
    case isFalse =>
      split
      case isTrue herror => simp [herror]
      case isFalse herror =>
        split
        case isTrue => simp [herror]
        case isFalse => simp [herror]

/-- A breach of the protocol is a failure of the connection. A row that cannot be
decoded is one, so it does not count as a refusal of the server. -/
theorem Row.IsBreach.isChannelFailure {e : Error} (h : Row.IsBreach e) : e.IsChannelFailure := by
  obtain ⟨message, raw, rfl⟩ := h
  exact ⟨rfl, rfl⟩

namespace Session

section

variable {τ : Type}

/-- The payload is that of an end marker. The number of the packet plays no part in
its kind, so any will do here. -/
def IsEnd (payload : Bytes) : Prop :=
  Packet.kind ⟨0, payload⟩ = .eof

/-- After the turns `before`, whole packets with these payloads have been heard,
numbered from `start` on. -/
structure Heard (holds : List Turn → τ → Prop) (before : List Turn) (start : UInt8)
    (payloads : List Bytes) (s : Session τ) : Prop where
  turns : holds (before ++ hear (Packet.stream start payloads)) s.channel.transport
  sequence : s.channel.sequence = start + UInt8.ofNat payloads.length
  short : ∀ payload ∈ payloads, payload.length < 0x1000000

/-- None of the payloads is that of an ERR packet, which begins with the marker of
an error. -/
def Unmarked (payloads : List Bytes) : Prop :=
  ∀ payload ∈ payloads, payload.head? ≠ some ErrReply.marker

/-- Whole packets have been heard, and none of them is an ERR packet. An operation
that succeeds leaves the session like this. -/
structure Accepted (holds : List Turn → τ → Prop) (before : List Turn) (start : UInt8)
    (payloads : List Bytes) (s : Session τ) : Prop extends
    Heard holds before start payloads s where
  unmarked : Unmarked payloads

/-- How an exchange fails that began after the turns `before`, with packets numbered
from `start` on. `blame` makes the error from the payloads before the ERR packet and
from what that packet says. -/
inductive Cut (holds : List Turn → τ → Prop) (before : List Turn) (start : UInt8)
    (blame : List Bytes → ErrReply → Error) : Error → Session τ → Prop
  /-- There is no whole packet to go on with, or no sense in the last one. -/
  | lost {payloads : List Bytes} {tail : Bytes} {e : Error} {s : Session τ}
      (turns : holds (before ++ hear (Packet.stream start payloads ++ tail)) s.channel.transport)
      (short : ∀ payload ∈ payloads, payload.length < 0x1000000)
      (unrefused : ∀ payload ∈ payloads, payload.head? = some ErrReply.marker →
        ErrReply.read.run? payload = none)
      (lacks : Packet.Lacks (start + UInt8.ofNat payloads.length) tail)
      (failure : e.IsChannelFailure) : Cut holds before start blame e s
  /-- The last packet is an ERR packet. -/
  | refused {payloads : List Bytes} {payload : Bytes} {reply : ErrReply} {s : Session τ}
      (turns : holds (before ++ hear (Packet.stream start (payloads ++ [payload])))
        s.channel.transport)
      (short : ∀ p ∈ payloads ++ [payload], p.length < 0x1000000)
      (unmarked : Unmarked payloads) (marked : payload.head? = some ErrReply.marker)
      (read : ErrReply.read.run? payload = some reply) :
      Cut holds before start blame (blame payloads reply) s

variable {holds : List Turn → τ → Prop} {before : List Turn} {start : UInt8}
  {payloads : List Bytes} {payload : Bytes} {blame : List Bytes → ErrReply → Error}
  {s s' : Session τ}

/-- What the conversation says does not change with the rest of the session, such as
its state or an event that is entered. -/
theorem Cut.of_turns {e : Error} (h : Cut holds before start blame e s)
    (hs : ∀ turns, holds turns s.channel.transport → holds turns s'.channel.transport) :
    Cut holds before start blame e s' := by
  cases h with
  | lost turns short unrefused lacks failure =>
    exact .lost (hs _ turns) short unrefused lacks failure
  | refused turns short unmarked marked read =>
    exact .refused (hs _ turns) short unmarked marked read

/-- Where packets have been heard, bytes have been heard and nothing said: those of
the packets, one behind the other. -/
theorem Heard.hears (h : Heard holds before start payloads s) :
    ∃ bs, holds (before ++ hear bs) s.channel.transport :=
  ⟨_, h.turns⟩

/-- Whichever way an exchange fails, only bytes have been heard in it. What was to
be said in it had been said before. -/
theorem Cut.hears {e : Error} (h : Cut holds before start blame e s) :
    ∃ bs, holds (before ++ hear bs) s.channel.transport := by
  cases h with
  | lost turns => exact ⟨_, turns⟩
  | refused turns => exact ⟨_, turns⟩

/-- An exchange may be lost before anything is heard, as one is whose command could
not be sent. -/
theorem Cut.unheard (h : holds before s.channel.transport) {e : Error} (he : e.IsChannelFailure) :
    Cut holds before start blame e s := by
  have hturns : holds (before ++ hear (Packet.stream start [] ++ [])) s.channel.transport := by
    simpa [Packet.stream, Packet.number] using h
  exact .lost hturns (List.forall_mem_nil _) (List.forall_mem_nil _) (Packet.lacks_nil _) he

/-- At the beginning of an exchange nothing has been heard, and the number due is
the one it begins with. -/
theorem Accepted.nil (h : holds before s.channel.transport)
    (hsequence : s.channel.sequence = start) :
    Accepted holds before start [] s where
  turns := by simpa [Packet.stream, Packet.number] using h
  sequence := by simpa using hsequence
  short := List.forall_mem_nil _
  unmarked := List.forall_mem_nil _

/-- What has been accepted is a matter of the transport and of the number that is
due, so anything else of the session may change. -/
theorem Accepted.of_channel (h : Accepted holds before start payloads s)
    (hturns : s'.channel.transport = s.channel.transport)
    (hsequence : s'.channel.sequence = s.channel.sequence) :
    Accepted holds before start payloads s' where
  turns := by
    rw [hturns]
    exact h.turns
  sequence := hsequence.trans h.sequence
  short := h.short
  unmarked := h.unmarked

/-- One more packet that is no error is accepted. That the packets before it were
accepted is the other hypothesis. -/
theorem Heard.accepted {packet : Packet}
    (h : Heard holds before start (payloads ++ [packet.payload]) s) (hunmarked : Unmarked payloads)
    (hkind : packet.kind ≠ .error) :
    Accepted holds before start (payloads ++ [packet.payload]) s where
  toHeard := h
  unmarked p hp := by
    rcases List.mem_append.mp hp with hp | hp
    · exact hunmarked p hp
    · rw [List.mem_singleton.mp hp]
      exact mt packet.kind_eq_error_iff.mpr hkind

/-- Where packets have been heard that hold no refusal, an exchange may fail only
with its connection. -/
theorem Heard.lost (h : Heard holds before start payloads s)
    (hunrefused : ∀ payload ∈ payloads, payload.head? = some ErrReply.marker →
      ErrReply.read.run? payload = none) {e : Error} (he : e.IsChannelFailure) :
    Cut holds before start blame e s := by
  have hturns : holds (before ++ hear (Packet.stream start payloads ++ []))
      s.channel.transport := by
    rw [List.append_nil]
    exact h.turns
  exact .lost hturns h.short hunrefused (Packet.lacks_nil _) he

/-- So where none of them is an ERR packet, a failure of the connection loses the
exchange behind whole packets. -/
theorem Accepted.lost (h : Accepted holds before start payloads s) {e : Error}
    (he : e.IsChannelFailure) : Cut holds before start blame e s := by
  refine h.toHeard.lost ?_ he
  intro p hp hmarked
  exact absurd hmarked (h.unmarked p hp)

/-- Where the last packet makes no sense, it is not a refusal that can be read. It
may begin as one, and then it cannot be decoded. -/
theorem Heard.garbled (h : Heard holds before start (payloads ++ [payload]) s)
    (hunmarked : Unmarked payloads)
    (hpayload : payload.head? = some ErrReply.marker → ErrReply.read.run? payload = none)
    {e : Error} (he : e.IsChannelFailure) : Cut holds before start blame e s := by
  refine h.lost ?_ he
  intro p hp hmarked
  rcases List.mem_append.mp hp with hp | hp
  · exact absurd hmarked (hunmarked p hp)
  · rw [List.mem_singleton.mp hp] at hmarked ⊢
    exact hpayload hmarked

/-- Packets have been accepted, and an ERR packet from here on is reported without a
query. This holds from the second packet of an answer on, and from the first where
there is no query. -/
structure Reading (holds : List Turn → τ → Prop) (before : List Turn) (start : UInt8)
    (blame : List Bytes → ErrReply → Error) (payloads : List Bytes) (s : Session τ) : Prop extends
    Accepted holds before start payloads s where
  blameless : ∀ (more : List Bytes) (reply : ErrReply),
    blame (payloads ++ more) reply = refusal reply none

/-- One more packet that is accepted leaves it so, and a failure is blamed as
before. -/
theorem Reading.next (h : Reading holds before start blame payloads s)
    (h' : Accepted holds before start (payloads ++ [payload]) s') :
    Reading holds before start blame (payloads ++ [payload]) s' where
  toAccepted := h'
  blameless more reply := by
    rw [List.append_assoc]
    exact h.blameless _ reply

/-- One more packet has been accepted, and it is an end marker where there is no
value. -/
def Next {α : Type} (holds : List Turn → τ → Prop) (before : List Turn) (start : UInt8)
    (blame : List Bytes → ErrReply → Error) (payloads : List Bytes) (a : Option α)
    (s : Session τ) : Prop :=
  ∃ payload, Reading holds before start blame (payloads ++ [payload]) s ∧ (IsEnd payload ↔ a = none)

/-- Whom a command blames: an ERR packet that answers it at once is reported with
the query. -/
def blameOn (sql : Option Bytes) (payloads : List Bytes) (reply : ErrReply) : Error :=
  refusal reply (if payloads = [] then sql else none)

/-- A read begins an exchange of its own, with whatever number is due. A refusal in
it is about no query. -/
theorem Reading.here {turns : List Turn} (hs : holds turns s.channel.transport) :
    Reading holds turns s.channel.sequence (blameOn none) [] s where
  toAccepted := .nil hs rfl
  blameless more reply := by rw [blameOn, ite_self]

/-- A reply that can be read or not: the session stays where it is. What cannot be
read is a failure of the connection. -/
theorem ends_decode {α : Type} (reader : Reader α) (complaint : String) (packet : Packet)
    (s : Session τ) :
    Ends (decode reader complaint packet) s
      (fun a s' => reader.run? packet.payload = some a ∧ s' = s)
      (fun e s' => reader.run? packet.payload = none ∧ e.IsChannelFailure ∧ s' = s) := by
  unfold decode
  split
  case h_1 a hread => exact ⟨hread, rfl⟩
  case h_2 hnone => exact ⟨hnone, ⟨rfl, rfl⟩, rfl⟩

/-- An ERR packet ends an exchange, whether it can be read or not. One that can be
read is a refusal, and one that cannot is lost like any packet without sense. -/
theorem Heard.ends_decodeErr {packet : Packet}
    (h : Heard holds before start (payloads ++ [packet.payload]) s) (hunmarked : Unmarked payloads)
    (hkind : packet.kind = .error) :
    Ends (decodeErr packet) s
      (fun reply s' => s' = s ∧ Cut holds before start blame (blame payloads reply) s)
      (fun e s' => Cut holds before start blame e s') := by
  have hmarked := packet.kind_eq_error_iff.mp hkind
  refine (ends_decode _ _ packet s).mono ?_ ?_
  · intro reply s' h'
    obtain ⟨hread, rfl⟩ := h'
    exact ⟨rfl, .refused h.turns h.short hunmarked hmarked hread⟩
  · intro e s' h'
    obtain ⟨hread, hfailure, rfl⟩ := h'
    refine h.garbled hunmarked ?_ hfailure
    intro _
    exact hread

/-- A session that is not ready for a command, or not for a query of that length,
does nothing. -/
inductive Declined (s : Session τ) : Error → Session τ → Prop
  | notReady (e : Error) (failure : e.isConnectionError = true) : Declined s e s
  | tooLong (sql : Bytes) (limit : Nat) (ready : s.state = .authenticated) :
      Declined s (tooLarge sql.length limit) s

/-- The session is ready for a command, or declines it as it stands. So a command
has to be followed from an authenticated session only. -/
theorem ends_requireReady_bind {α : Type} {next : Unit → SessionM τ α}
    {ok : α → Session τ → Prop} {bad : Error → Session τ → Prop}
    (hnext : s.state = .authenticated → Ends (next ()) s ok bad)
    (hdeclined : ∀ e, Declined s e s → bad e s) : Ends (requireReady >>= next) s ok bad := by
  simp only [requireReady, ends_bind, ends_get, ends_ensure]
  split
  case isTrue hstate => exact hnext hstate
  case isFalse => exact hdeclined _ (.notReady _ rfl)

/-- The session sends this query: it is authenticated, and the query does not exceed
its limit. -/
structure Admits (s : Session τ) (sql : Bytes) : Prop where
  ready : s.state = .authenticated
  limit : s.config.exceedsLimit sql.length = false

variable [Transport τ]

/-- The next packet follows those accepted so far. It is one more of the stream,
with the next number; where there is none, the exchange is cut behind them. -/
theorem Accepted.ends_receive (h : Accepted holds before start payloads s) (ht : Tally holds) :
    Ends receive s (fun packet s' => Heard holds before start (payloads ++ [packet.payload]) s')
      (fun e s' => Cut holds before start blame e s') := by
  rw [receive, onChannel, ends_focus]
  refine (ht.ends_receive h.turns).mono ?_ ?_
  · intro packet c hc
    obtain ⟨hturns, hsequence, hlength, hnext⟩ := hc
    -- The packet carries the number that is due, which counts the packets heard so far.
    have hframe : packet.frame
        = Packet.frame ⟨start + UInt8.ofNat payloads.length, packet.payload⟩ := by
      rw [← h.sequence, ← hsequence]
    refine ⟨?_, ?_, ?_⟩
    · rw [Packet.stream_concat, hear_append, ← List.append_assoc, ← hframe]
      exact hturns
    · show c.sequence = _
      rw [hnext, h.sequence, List.length_append, UInt8.ofNat_add, ← UInt8.add_assoc]
      rfl
    · intro p hp
      rcases List.mem_append.mp hp with hp | hp
      · exact h.short p hp
      · rwa [List.mem_singleton.mp hp]
  · intro e c hc
    obtain ⟨hfailure, tail, hturns, hlacks⟩ := hc
    rw [List.append_assoc, ← hear_append] at hturns
    rw [h.sequence] at hlacks
    -- None of the packets before was an error, so none was a refusal that can be read.
    refine .lost hturns h.short ?_ hlacks hfailure
    intro p hp hmarked
    exact absurd hmarked (h.unmarked p hp)

/-! ### Fields and rows -/

/-- Reads one packet: nothing at an end marker, an error from an ERR packet, and
whatever else it is from any other. Fields and rows are read by it, each with a
content of its own. -/
def untilEnd {α : Type} (content : Packet → SessionM τ (Option α)) : SessionM τ (Option α) := do
  let packet ← receive
  match packet.kind with
  | .eof =>
    recordEof (← decodeEof packet)
    return none
  | .error => throw (refusal (← decodeErr packet) none)
  | .ok | .data => content packet

/-- A field is what the packet parses as. With this reading a field is an instance
of reading up to an end marker. -/
theorem nextField_eq : nextField (τ := τ) = untilEnd fun packet =>
    match Field.parse? packet.payload with
    | some field => return some field
    | none => throw (.breachIn "Malformed field packet" packet.payload) := by
  rfl

/-- A row is the payload of the packet with the number of columns that the session
holds. -/
theorem nextRow_eq : nextRow (τ := τ) = untilEnd fun packet =>
    return some (.ofPayload packet.payload (← get).columnCount) := by
  rfl

/-- Where the content of a packet is at most wrong, a step takes one packet. There
is a case for each kind: an end marker ends, an error is a refusal, and the others
go by their content. -/
theorem Reading.ends_untilEnd (h : Reading holds before start blame payloads s) (ht : Tally holds)
    {α : Type} {content : Packet → SessionM τ (Option α)}
    (hcontent : ∀ packet s₁, Ends (content packet) s₁ (fun a s' => a ≠ none ∧ s' = s₁)
      (fun e s' => e.IsChannelFailure ∧ s' = s₁)) :
    Ends (untilEnd content) s (fun a s' => Next holds before start blame payloads a s')
      (fun e s' => Cut holds before start blame e s') := by
  apply Ends.bind (h.ends_receive ht)
  intro packet s₁ h₁
  have haccepted (hkind : packet.kind ≠ .error) := h.next (h₁.accepted h.unmarked hkind)
  -- Whatever is not marked as an error or an end goes the same way.
  have hother (herror : packet.kind ≠ .error) (hend : packet.kind ≠ .eof) :
      Ends (content packet) s₁ (fun a s' => Next holds before start blame payloads a s')
        (fun e s' => Cut holds before start blame e s') := by
    refine (hcontent packet s₁).mono ?_ ?_
    · intro a s' ha
      obtain ⟨hsome, rfl⟩ := ha
      exact ⟨packet.payload, haccepted herror, iff_of_false hend hsome⟩
    · intro e s' he
      obtain ⟨hfailure, rfl⟩ := he
      exact (haccepted herror).lost hfailure
  cases hkind : packet.kind with
  | eof =>
    have hnot : packet.kind ≠ .error := by simp [hkind]
    simp only [decodeEof, recordEof, ends_bind, ends_modify, ends_pure]
    refine (ends_decode _ _ packet s₁).mono ?_ ?_
    · intro reply s' h'
      obtain ⟨-, rfl⟩ := h'
      refine ⟨packet.payload, ?_, iff_of_true hkind rfl⟩
      exact h.next ((haccepted hnot).of_channel rfl rfl)
    · intro e s' h'
      obtain ⟨-, hfailure, rfl⟩ := h'
      exact (haccepted hnot).lost hfailure
  | error =>
    rw [ends_bind]
    refine (h₁.ends_decodeErr h.unmarked hkind).mono ?_ (fun _ _ h => h)
    intro reply s' h'
    have hblame := h.blameless [] reply
    rw [List.append_nil] at hblame
    obtain ⟨rfl, hcut⟩ := h'
    rw [ends_throw, ← hblame]
    exact hcut
  | ok => exact hother (by simp [hkind]) (by simp [hkind])
  | data => exact hother (by simp [hkind]) (by simp [hkind])

/-- Reading a field takes one packet, an end marker where there is none. It fails
over a packet that is neither. -/
theorem Reading.ends_nextField (h : Reading holds before start blame payloads s)
    (ht : Tally holds) :
    Ends nextField s (fun a s' => Next holds before start blame payloads a s')
      (fun e s' => Cut holds before start blame e s') := by
  rw [nextField_eq]
  refine h.ends_untilEnd ht ?_
  intro packet s₁
  split
  case h_1 field _ => exact ⟨Option.some_ne_none field, rfl⟩
  case h_2 => exact ⟨⟨rfl, rfl⟩, rfl⟩

/-- Reading a row does the same, and takes any content for one. -/
theorem Reading.ends_nextRow (h : Reading holds before start blame payloads s)
    (ht : Tally holds) :
    Ends nextRow s (fun a s' => Next holds before start blame payloads a s')
      (fun e s' => Cut holds before start blame e s') := by
  rw [nextRow_eq]
  refine h.ends_untilEnd ht ?_
  intro packet s₁
  exact ⟨Option.some_ne_none _, rfl⟩

/-- So does reading a row with its columns, which may turn out not to be there. That
is a failure behind the packet, not before it. -/
theorem Reading.ends_nextCells (h : Reading holds before start blame payloads s)
    (ht : Tally holds) :
    Ends nextCells s (fun a s' => Next holds before start blame payloads a s')
      (fun e s' => Cut holds before start blame e s') := by
  apply Ends.bind (h.ends_nextRow ht)
  rintro row s₁ ⟨payload, hreading, hend⟩
  cases row with
  | none => exact ⟨payload, hreading, hend.trans (iff_of_true rfl rfl)⟩
  | some row =>
    have hvalues := Row.failsOnly_values row
    unfold Ends at hvalues
    dsimp only
    split
    case h_1 cells _ _ =>
      have hsome : some row = none ↔ some cells = none :=
        iff_of_false (Option.some_ne_none _) (Option.some_ne_none _)
      exact ⟨payload, hreading, hend.trans hsome⟩
    -- The row is the last packet accepted, so no refusal has come.
    case h_2 heq =>
      rw [heq] at hvalues
      exact hreading.lost hvalues.isChannelFailure

/-! ### Commands -/

/-- What a session sends is the first of a new exchange, to be answered with the
next number. -/
theorem ends_send {turns : List Turn} (ht : Tally holds) (hs : holds turns s.channel.transport)
    (payload : Bytes) :
    Ends (send payload) s
      (fun _ s' => payload.length < maxPayload
        ∧ Accepted holds (turns ++ [.said (Packet.frame ⟨s.channel.sequence, payload⟩)])
          (s.channel.sequence + 1) [] s')
      (fun e s' => e.IsChannelFailure
        ∧ (maxPayload ≤ payload.length ∧ holds turns s'.channel.transport
          ∨ payload.length < maxPayload
            ∧ holds (turns ++ [.said (Packet.frame ⟨s.channel.sequence, payload⟩)])
              s'.channel.transport)) := by
  rw [send, onChannel, ends_focus]
  refine (ht.ends_send hs payload).mono ?_ (fun _ _ h => h)
  intro _ c hc
  obtain ⟨hlength, hturns, hsequence⟩ := hc
  exact ⟨hlength, .nil hturns hsequence⟩

/-- A command begins a new exchange: it is said before anything of its answer is
heard. -/
theorem ends_ask_bind {α : Type} {turns : List Turn} (ht : Tally holds)
    (hs : holds turns s.channel.transport) (hlength : payload.length < maxPayload)
    {next : Unit → SessionM τ α} {ok : α → Session τ → Prop}
    (hnext : ∀ s₁, Accepted holds (turns ++ [.command payload]) 1 [] s₁ →
      Ends (next ()) s₁ ok (Cut holds (turns ++ [.command payload]) 1 blame)) :
    Ends (startExchange >>= fun _ => send payload >>= next) s ok
      (Cut holds (turns ++ [.command payload]) 1 blame) := by
  have hstart : holds turns
      ({ s with channel := { s.channel with sequence := 0 } } : Session τ).channel.transport := hs
  simp only [startExchange, Channel.resetSequence, onChannel, ends_bind, ends_focus, ends_modify]
  refine (ends_send ht hstart payload).mono ?_ ?_
  · intro _ s₁ h₁
    obtain ⟨-, haccepted⟩ := h₁
    exact hnext s₁ haccepted
  · intro e s₁ h₁
    obtain ⟨hfailure, ⟨hlong, -⟩ | ⟨-, hsaid⟩⟩ := h₁
    · exact absurd hlength (Nat.not_lt_of_le hlong)
    · exact .unheard hsaid hfailure

/-- A statement that is admitted has one packet for an answer, and one that is not
is declined. The answer may be a reply, the header of a result set, a refusal that
is blamed on the query, or nonsense. -/
theorem ends_execute {turns : List Turn} (ht : Tally holds) (hs : holds turns s.channel.transport)
    (sql : Bytes) :
    Ends (execute sql) s
      (fun _ s' => s.Admits sql ∧ ∃ payload,
        Accepted holds (turns ++ [.command (Command.query.payload sql)]) 1 [payload] s')
      (fun e s' => Declined s e s' ∨ s.Admits sql
        ∧ Cut holds (turns ++ [.command (Command.query.payload sql)]) 1 (blameOn (some sql))
          e s') := by
  refine ends_requireReady_bind ?_ (fun e he => .inl he)
  intro hstate
  rw [ends_bind, ends_get, ends_bind, ends_ensure]
  split
  case isFalse => exact .inl (.tooLong sql _ hstate)
  case isTrue hlimit =>
    have hadmits : s.Admits sql := ⟨hstate, hlimit⟩
    have hlength : (Command.query.payload sql).length < maxPayload :=
      (Config.fits_of_exceedsLimit_eq_false hlimit).2
    refine Ends.mono (ends_ask_bind ht hs hlength fun s₁ h₁ => ?_) (fun _ _ h => ⟨hadmits, h⟩)
      (fun _ _ h => .inr ⟨hadmits, h⟩)
    apply Ends.bind (h₁.ends_receive ht)
    intro packet s₂ h₂
    cases hkind : packet.kind with
    | ok =>
      have hreply := h₂.accepted h₁.unmarked (by simp [hkind])
      simp only [decodeOk, recordOk, ends_bind, ends_modify, ends_pure]
      -- One that cannot be read is a failure of the connection, behind a whole packet.
      refine (ends_decode _ _ packet s₂).mono ?_ ?_
      · intro reply s' h'
        obtain ⟨-, rfl⟩ := h'
        exact ⟨packet.payload, hreply.of_channel rfl rfl⟩
      · intro e s' h'
        obtain ⟨-, hfailure, rfl⟩ := h'
        exact hreply.lost hfailure
    | error =>
      simp only [note, Channel.note, onChannel, ends_bind, ends_focus, ends_modify, ends_throw]
      refine (h₂.ends_decodeErr h₁.unmarked hkind).mono ?_ (fun _ _ h => h)
      intro reply s' h'
      obtain ⟨rfl, hcut⟩ := h'
      -- The event that tells of the refusal is entered, which the turns do not show.
      exact hcut.of_turns fun _ h => h
    | eof | data =>
      have hreply := h₂.accepted h₁.unmarked (by simp [hkind])
      dsimp only
      split
      case h_1 columnCount _ =>
        simp only [note, Channel.note, onChannel, ends_bind, ends_focus, ends_modify, ends_pure]
        exact ⟨packet.payload, hreply.of_channel rfl rfl⟩
      case h_2 => exact hreply.lost ⟨rfl, rfl⟩

/-- A ping of a session that is ready has one packet for an answer as well, and no
query to blame. -/
theorem ends_ping {turns : List Turn} (ht : Tally holds) (hs : holds turns s.channel.transport) :
    Ends ping s
      (fun _ s' => s.state = .authenticated ∧ ∃ payload,
        Accepted holds (turns ++ [.command (Command.ping.payload [])]) 1 [payload] s')
      (fun e s' => Declined s e s' ∨ s.state = .authenticated
        ∧ Cut holds (turns ++ [.command (Command.ping.payload [])]) 1 (blameOn none) e s') := by
  refine ends_requireReady_bind ?_ (fun e he => .inl he)
  intro hstate
  have hlength : (Command.ping.payload []).length < maxPayload := by decide
  refine Ends.mono (ends_ask_bind ht hs hlength fun s₁ h₁ => ?_) (fun _ _ h => ⟨hstate, h⟩)
    (fun _ _ h => .inr ⟨hstate, h⟩)
  apply Ends.bind (h₁.ends_receive ht)
  intro packet s₂ h₂
  cases hkind : packet.kind with
  | ok =>
    -- Whatever packet it is but an error, it is the whole answer.
    have hreply := h₂.accepted h₁.unmarked (by simp [hkind])
    simp only [decodeOk, ends_bind, ends_modify]
    refine (ends_decode _ _ packet s₂).mono ?_ ?_
    · intro reply s' h'
      obtain ⟨-, rfl⟩ := h'
      exact ⟨packet.payload, hreply.of_channel rfl rfl⟩
    · intro e s' h'
      obtain ⟨-, hfailure, rfl⟩ := h'
      exact hreply.lost hfailure
  | error =>
    rw [ends_bind]
    refine (h₂.ends_decodeErr h₁.unmarked hkind).mono ?_ (fun _ _ h => h)
    intro reply s' h'
    obtain ⟨rfl, hcut⟩ := h'
    exact hcut
  | eof | data =>
    have hreply := h₂.accepted h₁.unmarked (by simp [hkind])
    exact hreply.lost ⟨rfl, rfl⟩

end

/-! ### Result sets -/

section

variable {τ : Type} {holds : List Turn → τ → Prop} {before : List Turn} {start : UInt8}
  {payloads : List Bytes} {blame : List Bytes → ErrReply → Error} {s : Session τ}

/-- Packets have been read up to an end marker, so many of them before it. The
marker is the last, and none before it is one. -/
def Closed (holds : List Turn → τ → Prop) (before : List Turn) (start : UInt8)
    (blame : List Bytes → ErrReply → Error) (payloads : List Bytes) (count : Nat)
    (s : Session τ) : Prop :=
  ∃ items last, Reading holds before start blame (payloads ++ (items ++ [last])) s
    ∧ items.length = count ∧ IsEnd last ∧ ∀ item ∈ items, ¬ IsEnd item

/-- A loop whose step takes one packet reads up to the end marker. The state of the
loop may have the session as a part, as the display has, so it is looked at through
a view. -/
theorem Reading.ends_collect {σ α : Type} {step : EStateM Error σ (Option α)}
    (view : σ → Session τ)
    (hstep : ∀ payloads x, Reading holds before start blame payloads (view x) →
      Ends step x (fun a x' => Next holds before start blame payloads a (view x'))
        (fun e x' => Cut holds before start blame e (view x')))
    (fuel : Nat) {x : σ} (h : Reading holds before start blame payloads (view x)) :
    Ends (collect step fuel []) x
      (fun as x' => Closed holds before start blame payloads as.length (view x'))
      (fun e x' => Cut holds before start blame e (view x')) := by
  have hspent : ∀ payloads x, Reading holds before start blame payloads (view x) →
      Cut holds before start blame .timeout (view x) := by
    intro payloads x hreading
    exact hreading.lost ⟨rfl, rfl⟩
  have hcollect := SqlWire.ends_collect
    (fun payloads x => Reading holds before start blame payloads (view x)) hstep hspent fuel [] h
  refine hcollect.mono ?_ (fun _ _ h => h)
  intro as x' hx
  obtain ⟨items, last, hreading, hlength, hlast, hitems⟩ := hx
  refine ⟨items, last, hreading, ?_, hlast, hitems⟩
  rw [hlength, List.length_nil, Nat.zero_add]

/-- Writing does not touch the session, and fails as a broken output does. To the
conversation this is as good as a lost connection: nothing more is heard. -/
theorem Accepted.ends_writeLine (h : Accepted holds before start payloads s) (text : String)
    (sink : Sink) :
    Ends (writeLine text) (s, sink) (fun _ x => x.1 = s)
      (fun e x => Cut holds before start blame e x.1) := by
  rw [writeLine, ends_focus, ends_adaptExcept]
  refine (maintains_const True _ sink trivial).mono (fun _ _ _ => rfl) ?_
  intro e _ _
  exact h.lost ⟨rfl, rfl⟩

variable [FiniteTransport τ]

/-- Reading all fields takes the packets up to an end marker, one for each field.
The round that meets the marker ends the loop. -/
theorem Reading.ends_readFields (h : Reading holds before start blame payloads s)
    (ht : Tally holds) :
    Ends readFields s (fun fields s' => Closed holds before start blame payloads fields.length s')
      (fun e s' => Cut holds before start blame e s') := by
  rw [readFields, ends_bind, ends_get]
  exact Reading.ends_collect id (fun payloads x hx => hx.ends_nextField ht) _ h

/-- Reading all rows takes those up to the next one, and counts as many rows. -/
theorem Reading.ends_readRows (h : Reading holds before start blame payloads s)
    (ht : Tally holds) :
    Ends readRows s (fun rows s' => Closed holds before start blame payloads rows.length s')
      (fun e s' => Cut holds before start blame e s') := by
  rw [readRows, ends_bind, ends_get]
  exact Reading.ends_collect id (fun payloads x hx => hx.ends_nextCells ht) _ h

/-- The payloads are those of a header, of the fields up to an end marker, and of
the rows up to another one. -/
def ReadAs (set : ResultSet) (payloads : List Bytes) : Prop :=
  ∃ header fields fieldsEnd rows rowsEnd,
    payloads = header :: (fields ++ fieldsEnd :: (rows ++ [rowsEnd]))
      ∧ fields.length = set.fields.length ∧ IsEnd fieldsEnd ∧ (∀ field ∈ fields, ¬ IsEnd field)
      ∧ rows.length = set.rows.length ∧ IsEnd rowsEnd ∧ ∀ row ∈ rows, ¬ IsEnd row

/-- A query reads its whole answer, and every packet of a result set. An answer
without rows is one packet; otherwise the packets of the fields and of the rows
follow the header. -/
theorem ends_query {turns : List Turn} (ht : Tally holds) (hs : holds turns s.channel.transport)
    (sql : String) :
    Ends (query sql) s
      (fun result s' => s.Admits (Utf8.encode sql) ∧ ∃ payloads, payloads ≠ []
        ∧ Accepted holds (turns ++ [.command (Command.query.payload (Utf8.encode sql))]) 1
          payloads s'
        ∧ ∀ set, result = .rows set → ReadAs set payloads)
      (fun e s' => Declined s e s' ∨ s.Admits (Utf8.encode sql)
        ∧ Cut holds (turns ++ [.command (Command.query.payload (Utf8.encode sql))]) 1
          (blameOn (some (Utf8.encode sql))) e s') := by
  rw [query]
  apply Ends.bind (ends_execute ht hs (Utf8.encode sql))
  rintro outcome s₁ ⟨hadmits, header, h₁⟩
  cases outcome with
  | done reply => exact ⟨hadmits, [header], by simp, h₁, by simp⟩
  | resultSet columnCount =>
    -- The header is behind, so whatever comes now is not blamed on the query.
    have hreading : Reading holds _ 1 (blameOn (some (Utf8.encode sql))) [header] s₁ :=
      ⟨h₁, fun more reply => rfl⟩
    simp only [ends_bind]
    refine (hreading.ends_readFields ht).mono ?_ (fun _ _ h => .inr ⟨hadmits, h⟩)
    intro fields s₂ h₂
    obtain ⟨fieldItems, fieldsEnd, h₂, hfields, hfieldsEnd, hfieldItems⟩ := h₂
    simp only [ends_ensure]
    split
    case isFalse => exact .inr ⟨hadmits, h₂.lost ⟨rfl, rfl⟩⟩
    case isTrue =>
      refine (h₂.ends_readRows ht).mono ?_ (fun _ _ h => .inr ⟨hadmits, h⟩)
      intro rows s₃ h₃
      obtain ⟨rowItems, rowsEnd, h₃, hrows, hrowsEnd, hrowItems⟩ := h₃
      refine ⟨hadmits, _, by simp, h₃.toAccepted, ?_⟩
      rintro set ⟨⟩
      exact ⟨header, fieldItems, fieldsEnd, rowItems, rowsEnd, by simp, hfields, hfieldsEnd,
        hfieldItems, hrows, hrowsEnd, hrowItems⟩

/-- Showing a row takes one packet, as reading it does. The line is written after
the packet has been taken. -/
theorem Reading.ends_showRow (h : Reading holds before start blame payloads s) (ht : Tally holds)
    (sink : Sink) :
    Ends showRow (s, sink) (fun a x => Next holds before start blame payloads a x.1)
      (fun e x => Cut holds before start blame e x.1) := by
  rw [showRow, ends_bind, besideSink, ends_focus]
  refine (h.ends_nextCells ht).mono ?_ (fun _ _ h => h)
  intro cells s₁ h₁
  obtain ⟨payload, hreading, hend⟩ := h₁
  cases cells with
  | none => exact ⟨payload, hreading, hend.trans (iff_of_true rfl rfl)⟩
  | some cells =>
    apply Ends.bind (hreading.ends_writeLine _ sink)
    rintro _ ⟨s₂, sink⟩ rfl
    have hsome : some cells = none ↔ some () = none :=
      iff_of_false (Option.some_ne_none _) (Option.some_ne_none _)
    exact ⟨payload, hreading, hend.trans hsome⟩

/-- The display reads the packets of a result set, and may fail for its output as
well. -/
theorem Reading.ends_showResults (h : Reading holds before start blame payloads s)
    (ht : Tally holds) (sink : Sink) :
    Ends showResults (s, sink)
      (fun _ x => ∃ more, Accepted holds before start (payloads ++ more) x.1)
      (fun e x => Cut holds before start blame e x.1) := by
  rw [showResults, ends_bind, besideSink, ends_focus]
  refine (h.ends_readFields ht).mono ?_ (fun _ _ h => h)
  intro fields s₁ h₁
  obtain ⟨fieldItems, fieldsEnd, h₁, -⟩ := h₁
  -- The line of names stands between the fields and the rows, and reads nothing.
  apply Ends.bind (h₁.ends_writeLine _ sink)
  rintro _ ⟨s₂, sink⟩ rfl
  rw [ends_bind, ends_get]
  apply Ends.bind (Reading.ends_collect Prod.fst (fun payloads x hx => hx.ends_showRow ht x.2) _ h₁)
  rintro rows ⟨s₃, sink⟩ ⟨rowItems, rowsEnd, h₃, -⟩
  apply Ends.bind (h₃.ends_writeLine _ sink)
  rintro _ ⟨s₄, sink⟩ rfl
  refine ⟨fieldItems ++ [fieldsEnd] ++ (rowItems ++ [rowsEnd]), ?_⟩
  rw [← List.append_assoc]
  exact h₃.toAccepted

end

end Session

end SqlWire
