import SqlWire.Transport

/-!
# A transport that follows a script

The script says what the stream does next: deliver some bytes, stay silent for some
polls, announce bytes without having them, or fail. Attempts to connect and writes
follow plans of their own, and a plan that has run out lets everything succeed. What
the client does is counted and kept.
-/

set_option autoImplicit false

namespace SqlWire

/-- What a scripted stream does next. -/
inductive ScriptItem where
  /-- Delivers bytes, and says how many are left. -/
  | data (bs : Bytes)
  /-- Answers so many polls with nothing. -/
  | idle (polls : Nat)
  /-- Answers one poll with a count, whatever follows. -/
  | claim (count : Nat)
  /-- Fails one poll. -/
  | pollFailure (e : IoError)
  /-- Announces a byte and fails the reading of it. -/
  | readFailure (e : IoError)
deriving DecidableEq, Repr

/-- Bytes that an item delivers. -/
def ScriptItem.size : ScriptItem → Nat
  | data bs => bs.length
  | _ => 0

/-- A transport that follows a script. -/
structure ScriptedTransport where
  connected : Bool := false
  /-- What the stream does from here on. -/
  script : List ScriptItem := []
  /-- Outcomes of the next attempts to connect, `none` for success. -/
  connectPlan : List (Option IoError) := []
  /-- Outcomes of the next writes, `none` for success. -/
  writePlan : List (Option IoError) := []
  /-- Hosts and ports that attempts to connect were made to, the latest first. -/
  targets : List (String × UInt16) := []
  /-- Times that the transport has been closed. -/
  closes : Nat := 0
  /-- Times that the transport has been asked for its available bytes. -/
  polls : Nat := 0
  /-- Buffers written, the latest first. -/
  writes : List Bytes := []
deriving DecidableEq, Repr

namespace ScriptedTransport

/-- Puts items at the end of the script. Data without bytes is no item. -/
def push (t : ScriptedTransport) (items : List ScriptItem) : ScriptedTransport :=
  { t with script := t.script ++ items.filter (· ≠ .data []) }

/-- Bytes that the script will still deliver, counted. -/
def pending (t : ScriptedTransport) : Nat :=
  t.script.foldr (fun item rest => item.size + rest) 0

/-- The buffers written since they were last taken, first one first. -/
def takeWrites (t : ScriptedTransport) : List Bytes × ScriptedTransport :=
  (t.writes.reverse, { t with writes := [] })

/-- The outcome that a plan gives next, and the plan after it. -/
def nextOutcome : List (Option IoError) → Option IoError × List (Option IoError)
  | [] => (none, [])
  | outcome :: rest => (outcome, rest)

/-- Succeeds or fails as a plan says. -/
def follow : Option IoError → EStateM IoError ScriptedTransport Unit
  | none => return
  | some e => throw e

/-- Keeps the target and follows the plan. -/
def connect (host : String) (port : UInt16) : EStateM IoError ScriptedTransport Unit := do
  let (outcome, connectPlan) := nextOutcome (← get).connectPlan
  modify fun t => { t with connectPlan, targets := (host, port) :: t.targets }
  follow outcome
  modify fun t => { t with connected := true }

/-- Follows the plan and keeps what is written, in a session or outside of one. -/
def write (bs : Bytes) : EStateM IoError ScriptedTransport Unit := do
  let (outcome, writePlan) := nextOutcome (← get).writePlan
  modify fun t => { t with writePlan }
  follow outcome
  modify fun t => { t with writes := bs :: t.writes }

/-- The next byte of the data that the script has come to; anything else in its
place has none. -/
def readByte : EStateM IoError ScriptedTransport UInt8 := do
  let t ← get
  match t.script with
  | .data [b] :: script =>
    set { t with script }
    return b
  | .data (b :: bs) :: script =>
    set { t with script := .data bs :: script }
    return b
  | .readFailure e :: script =>
    set { t with script }
    throw e
  | _ => throw .exhausted

/-- Counts the poll and answers it from the item that the script has come to. -/
def available : EStateM IoError ScriptedTransport Nat := do
  modify fun t => { t with polls := t.polls + 1 }
  let t ← get
  match t.script with
  | [] => return 0
  | .data bs :: _ => return bs.length
  | .idle polls :: script =>
    set { t with script := if polls ≤ 1 then script else .idle (polls - 1) :: script }
    return 0
  | .claim count :: script =>
    set { t with script }
    return count
  | .pollFailure e :: script =>
    set { t with script }
    throw e
  | .readFailure _ :: _ => return 1

/-- A script is finite, so there is an end to what it delivers. -/
instance : FiniteTransport ScriptedTransport where
  connect := connect
  write := write
  readByte := readByte
  available := available
  close t := { t with connected := false, closes := t.closes + 1 }
  isConnected := connected
  backlog := pending
  backlog_readByte {t t' b} h := by
    simp only [readByte, EStateM.run_bind, EStateM.run_get] at h
    split at h <;> cases h <;> simp_all [pending, ScriptItem.size]
  backlog_available {t t' n} h := by
    simp only [available, EStateM.run_bind, EStateM.run_get, EStateM.run_modify] at h
    split at h
    · cases h; simp [pending]
    · cases h; simp [pending]
    · next heq => cases h; split <;> simp_all [pending, ScriptItem.size]
    · next heq => cases h; simp [pending, heq, ScriptItem.size]
    · cases h
    · cases h; simp [pending]

end ScriptedTransport

end SqlWire
