import SqlWire.Proofs.Session.Notices
import SqlWire.Proofs.Session.Reachable
import SqlWire.Proofs.Transport.Memory

/-!
# The last notice

A `History` of a session lists the notices that its operations were given, each with
the operation, from the making of the session on. Every session that a program can
come by has one (`Reachable.history`), and it decides the numbers that the session
has from OK and EOF packets (`History.counters_eq`). The status flags are those of
the last notice. The warnings need not be: a `ping` keeps only the status of its
reply (`ping_leaves_warnings`). They are those of the last notice that answered no
ping (`History.statusFlags_and_warnings`).
-/

set_option autoImplicit false

namespace SqlWire

/-- The notices that an operation is given: those among the packets that it has
received. -/
def Operation.told {τ : Type} [FiniteTransport τ] (operation : Operation) (s : Session τ) :
    List Notice :=
  operation.notices ((operation.perform s).2.inbox.drop s.inbox.length)

/-- What is kept of the notices of a history, after some numbers. The operations
keep different parts of them, so each entry has its own. -/
def Counters.keepAll (c : Counters) (told : List (Operation × Notice)) : Counters :=
  told.foldl (fun c entry => entry.1.keep c entry.2) c

namespace Counters

/-- A history may be cut anywhere: what is kept of the rest is kept after what was
kept of the beginning. -/
theorem keepAll_append (c : Counters) (told told' : List (Operation × Notice)) :
    c.keepAll (told ++ told') = (c.keepAll told).keepAll told' :=
  List.foldl_append ..

/-- Whatever is kept of a notice, its status is. So the last notice of all decides
it. -/
theorem statusFlags_keep (operation : Operation) (c : Counters) (notice : Notice) :
    (operation.keep c notice).statusFlags = notice.statusFlags := by
  -- Every operation keeps the status, so the cases differ in the other three numbers only.
  cases operation <;> cases notice <;> rfl

/-- A ping leaves the warnings as they were, and no other operation does. So the
entries of pings have to be passed over. -/
theorem warnings_keep (operation : Operation) (c : Counters) (notice : Notice) :
    (operation.keep c notice).warnings
      = if operation = .ping then c.warnings else notice.warnings := by
  cases operation <;> cases notice <;> rfl

/-- The last notice decides the status. The induction is on the notices, first one
first, so the numbers that it begins with change. -/
theorem statusFlags_keepAll (c : Counters) (told : List (Operation × Notice)) :
    (c.keepAll told).statusFlags
      = told.getLast?.elim c.statusFlags fun entry => entry.2.statusFlags := by
  induction told generalizing c with
  | nil => rfl
  | cons entry told ih =>
    show ((entry.1.keep c entry.2).keepAll told).statusFlags = _
    rw [ih, List.getLast?_cons]
    cases told.getLast? with
    | none => exact statusFlags_keep entry.1 c entry.2
    | some last => rfl

/-- The last notice that answered no ping decides the warnings. The induction is on
the history, from its end. -/
theorem warnings_keepAll (c : Counters) (told : List (Operation × Notice)) :
    (c.keepAll told).warnings
      = (told.filter (·.1 ≠ .ping)).getLast?.elim c.warnings fun entry => entry.2.warnings := by
  induction told generalizing c with
  | nil => rfl
  | cons entry told ih =>
    show ((entry.1.keep c entry.2).keepAll told).warnings = _
    rw [ih, warnings_keep]
    by_cases hping : entry.1 = .ping
    · simp [hping]
    · have hcounts : decide (entry.1 ≠ .ping) = true := decide_eq_true hping
      rw [if_neg hping, List.filter_cons, if_pos hcounts, List.getLast?_cons]
      cases (told.filter (·.1 ≠ .ping)).getLast? with
      | none => rfl
      | some last => rfl

end Counters

namespace Session

variable {τ : Type} [FiniteTransport τ]

/-- The session has come about, and on the way its operations were given these
notices. -/
inductive History : Session τ → List (Operation × Notice) → Prop
  | ofTransport (t : τ) (config : Config) : History (.ofTransport t config) []
  | perform {s : Session τ} {told : List (Operation × Notice)} (operation : Operation)
      (h : History s told) :
      History (operation.perform s).2 (told ++ (operation.told s).map (operation, ·))
  | mapTransport {s : Session τ} {told : List (Operation × Notice)} (f : τ → τ)
      (h : History s told) : History (s.mapTransport f) told
  | takeEvents {s : Session τ} {told : List (Operation × Notice)} (h : History s told) :
      History s.takeEvents.2 told

variable {s : Session τ} {told : List (Operation × Notice)}

/-- Every session that can be come by has such a history, so whatever is shown of
histories holds of all sessions. -/
theorem Reachable.history (h : Reachable s) : ∃ told, History s told := by
  induction h with
  | ofTransport t config => exact ⟨[], .ofTransport t config⟩
  | perform operation _ ih =>
    obtain ⟨told, h⟩ := ih
    exact ⟨_, h.perform operation⟩
  | mapTransport f _ ih =>
    obtain ⟨told, h⟩ := ih
    exact ⟨told, h.mapTransport f⟩
  | takeEvents _ ih =>
    obtain ⟨told, h⟩ := ih
    exact ⟨told, h.takeEvents⟩

/-- An operation keeps what it is told, and changes the numbers in no other way.
This is the step of the induction over a history. -/
theorem counters_perform (operation : Operation) (s : Session τ) :
    (operation.perform s).2.counters
      = s.counters.keepAll ((operation.told s).map (operation, ·)) := by
  obtain ⟨payloads, hs⟩ := perform_told operation s
  have htold : operation.told s = operation.notices payloads := by
    rw [Operation.told, hs.inbox, List.drop_left]
  rw [htold, hs.counters, Counters.keepAll, List.foldl_map]

/-- The numbers of a session are what its history says, from zero on. What happens
to the transport or to the events between two operations has no part in it. -/
theorem History.counters_eq (h : History s told) : s.counters = Counters.keepAll {} told := by
  induction h with
  | ofTransport t config => rfl
  | perform operation _ ih => rw [counters_perform, ih, Counters.keepAll_append]
  | mapTransport f _ ih => exact ih
  | takeEvents _ ih => exact ih

/-- In every state that a session can be brought to, the status flags are those of
the last OK or EOF packet that one of its operations was given, and the warnings are
those of the last one that answered no ping; each is zero where there has been none. -/
theorem History.statusFlags_and_warnings (h : History s told) :
    s.statusFlags = (told.getLast?.elim 0 fun entry => entry.2.statusFlags)
      ∧ s.warnings
        = (told.filter (·.1 ≠ .ping)).getLast?.elim 0 fun entry => entry.2.warnings := by
  have hstatus := congrArg Counters.statusFlags h.counters_eq
  have hwarnings := congrArg Counters.warnings h.counters_eq
  rw [Counters.statusFlags_keepAll] at hstatus
  rw [Counters.warnings_keepAll] at hwarnings
  exact ⟨hstatus, hwarnings⟩

/-- A login, a result set of which the end of the fields has been read, and a ping.
The status is that of the ping and the warnings are those of the end marker. -/
theorem statusFlags_and_warnings_after_ping :
    let answers : Bytes := Packet.stream 1 [[1], [0xFE, 1, 0, 0x22, 0]]
      ++ Packet.frame ⟨1, [0, 0, 0, 3, 0, 5, 0]⟩
    let opened := (Operation.connect.perform
      (ofTransport (MemoryTransport.welcoming 7 answers) { user := "app" })).2
    let listed := (Operation.nextField.perform ((Operation.execute [0x51]).perform opened).2).2
    let s := (Operation.ping.perform listed).2
    let told : List (Operation × Notice) :=
      [(.connect, .ok ⟨0, 0, 2, 0, ""⟩), (.nextField, .eof ⟨1, 0x22⟩), (.ping, .ok ⟨0, 0, 3, 5, ""⟩)]
    History s told ∧ s.statusFlags = 3 ∧ s.warnings = 1 := by
  intro answers opened listed s told
  have hopened := (History.ofTransport (MemoryTransport.welcoming 7 answers)
    { user := "app" }).perform .connect
  have hmade := ((hopened.perform (.execute [0x51])).perform .nextField).perform .ping
  have h : History s told := by
    refine Eq.mp (congrArg (History s) ?_) hmade
    decide +kernel
  obtain ⟨hstatus, hwarnings⟩ := History.statusFlags_and_warnings h
  exact ⟨h, hstatus, hwarnings⟩

/-- The warnings are not always those of the packet that the status flags are from:
a ping may be answered with warnings, and they are not kept. -/
theorem ping_leaves_warnings :
    ¬ ∀ (s : Session MemoryTransport) (told : List (Operation × Notice)), History s told →
      s.statusFlags = (told.getLast?.elim 0 fun entry => entry.2.statusFlags)
        ∧ s.warnings = told.getLast?.elim 0 fun entry => entry.2.warnings := by
  intro hclaim
  have h := ((History.ofTransport (MemoryTransport.welcoming 7
    (Packet.frame ⟨1, [0, 0, 0, 2, 0, 3, 0]⟩)) { user := "app" }).perform .connect).perform .ping
  exact absurd (hclaim _ _ h).2 (by decide +kernel)

end Session

end SqlWire
