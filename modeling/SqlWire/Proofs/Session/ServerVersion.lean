import SqlWire.Proofs.Session.Calls
import SqlWire.Proofs.Session.Outbound
import SqlWire.Proofs.Session.Welcome
import SqlWire.Proofs.Transport.Memory

/-!
# Which server a session knows of

The version of the server is read from a greeting and remembered when the session is
opened. Nothing else touches it. In an authenticated session it is that of the
greeting that the session was opened with, for whatever left the session
authenticated since then did not open it again
(`Calls.serverVersion_of_latest_opening`). But the end of a session does not touch
it either, so a session that is closed goes on to give the version of the server
that it had (`close_leaves_serverVersion`).

The version is an instance of what is decided by some calls and kept by all others
(`Decided`), so a step law for each operation is all that there is to prove of it.
What is added is a look at the state: between two openings the session cannot have
been left and entered again.
-/

set_option autoImplicit false

namespace SqlWire

open SqlWire.Action

namespace Call

/-- The call has opened the session, which only a `connect` that succeeds does. -/
def opens (call : Call) : Bool :=
  match call.operation, call.result with
  | .connect, .ok _ => true
  | _, _ => false

/-- The version that is known after the call is that of a greeting, which is the
first packet that the call received. -/
def Greets (call : Call) (serverVersion : Option String) : Prop :=
  ∃ payload greeting, call.received.head? = some payload
    ∧ Greeting.parse payload = .ok greeting ∧ serverVersion = some greeting.serverVersion

end Call

namespace Session

/-- What commands, reads and the end of a session leave alone: none of them is about
the server itself. -/
theorem lasting_serverVersion {τ : Type} [Transport τ] (serverVersion : Option String) :
    Lasting fun s : Session τ => s.serverVersion = serverVersion where
  receive := maintains_onChannel (fun _ _ hs => hs) _
  send _ := maintains_onChannel (fun _ _ hs => hs) _
  note _ := maintains_onChannel (fun _ _ hs => hs) _
  startExchange := maintains_onChannel (fun _ _ hs => hs) _
  reply _ _ _ _ _ hs := hs
  columnCount _ _ _ hs := hs

variable {τ : Type} [FiniteTransport τ]

/-- Whatever is done but opening, and however it ends, leaves the version as it was.
Closing is among these. -/
theorem serverVersion_perform_of_ne_connect {operation : Operation} (hne : operation ≠ .connect)
    (s : Session τ) : (operation.perform s).2.serverVersion = s.serverVersion :=
  (lasting_serverVersion s.serverVersion).perform_of_ne_connect
    ((lasting_serverVersion s.serverVersion).maintains_close fun _ hs => hs) hne s rfl

/-- The version is decided by the calls that open the session: these leave what
their greeting says, and all others what was known before. -/
theorem decided_serverVersion :
    Decided (serverVersion (τ := τ)) none Call.opens Call.Greets where
  ofTransport _ _ := rfl
  channel _ _ := rfl
  perform operation s := by
    cases operation with
    | connect =>
      apply report_of_ends (Leaves serverVersion Call.opens Call.Greets .connect s)
      refine (ends_connect_welcomed s).mono ?_ ?_
      · intro _ s' h
        obtain ⟨greeting, reply, ⟨payload, answer, hinbox, hparse, -⟩, hrecord⟩ := h
        refine .said rfl ⟨payload, greeting, ?_, hparse, congrArg Bookkeeping.serverVersion hrecord⟩
        rw [Call.received_of hinbox, List.head?_cons]
      · intro e s' h
        exact .kept rfl (congrArg Bookkeeping.serverVersion h)
    | execute | query | nextField | nextRow | showResults | ping | close =>
      exact .kept rfl (serverVersion_perform_of_ne_connect (by simp) s)

/-! ### Sessions that are open -/

/-- A session that is authenticated after a call that did not open it has been so
before. An opening that fails does not leave it authenticated, and no other
operation makes it so. -/
theorem authenticated_of_call {operation : Operation} {s : Session τ}
    (hopens : (operation.call s).opens = false)
    (h : (operation.perform s).2.state = .authenticated) : s.state = .authenticated := by
  by_cases hoperation : operation = .connect
  · subst hoperation
    refine report_of_ends (fun result s' => (Call.of .connect s result s').opens = false →
      s'.state = .authenticated → s.state = .authenticated) ?_ hopens h
    refine (ends_connect_state s).mono ?_ ?_
    · intro _ s' _ hopens
      cases hopens
    · -- One that fails leaves a session that is not authenticated, unless it did nothing at all.
      intro e s' hfailed _ hstate
      rcases hfailed with rfl | hne
      · exact hstate
      · exact absurd hstate hne
  · refine Decidable.byContradiction ?_
    intro hs
    have hlasting := lasting_state (τ := τ) (· ≠ .authenticated)
    exact hlasting.perform_of_ne_connect maintains_close_unready hoperation s hs h

/-- An authenticated session has been opened, and has been authenticated ever since.
The induction is on the calls: one that did not open it has found it authenticated. -/
theorem Calls.authenticated {s : Session τ} {calls : List Call} (h : Calls s calls)
    (hs : s.state = .authenticated) :
    (calls.find? Call.opens).isSome = true
      ∧ ∀ call ∈ calls.takeWhile (!Call.opens ·), call.state = .authenticated := by
  induction h with
  | ofTransport t config => cases hs
  | @perform s calls operation _ ih =>
    rw [List.find?_cons, List.takeWhile_cons]
    cases hopens : (operation.call s).opens with
    | true =>
      refine ⟨rfl, ?_⟩
      intro call hcall
      cases hcall
    | false =>
      -- This call found the session authenticated already, so the one that opened it is
      -- further back.
      obtain ⟨hsome, hsince⟩ := ih (authenticated_of_call hopens hs)
      refine ⟨hsome, ?_⟩
      intro call hcall
      rcases List.mem_cons.mp hcall with rfl | hcall
      · exact hs
      · exact hsince call hcall
  | mapTransport f _ ih => exact ih hs
  | takeEvents _ ih => exact ih hs

/-- In every state that a session can be brought to, the version is that of the
greeting which the latest successful `connect` received, and there is none before
the first one. While the session is authenticated, that `connect` is the one that
opened it: there has been one, and every call since has left the session
authenticated. -/
theorem Calls.serverVersion_of_latest_opening {s : Session τ} {calls : List Call} (h : Calls s calls) :
    (match calls.find? Call.opens with
      | none => s.serverVersion = none
      | some call => ∃ payload greeting, call.received.head? = some payload
        ∧ Greeting.parse payload = .ok greeting ∧ s.serverVersion = some greeting.serverVersion)
      ∧ (s.state = .authenticated → (calls.find? Call.opens).isSome = true
        ∧ ∀ call ∈ calls.takeWhile (!Call.opens ·), call.state = .authenticated) :=
  ⟨h.decided decided_serverVersion, h.authenticated⟩

/-- A session that has been closed and opened again, with another server this time,
and a ping. The version is that of the second server, and the ping is among the
calls since. -/
theorem serverVersion_after_reopening :
    let welcome (version : UInt8) : Bytes := Packet.frame ⟨0, [10, version, 0, 7, 0, 0, 0, 1, 1, 1, 1,
      1, 1, 1, 1, 0, 0, 2, 8, 2, 0, 0, 0, 0, 0, 0, 0, 0, 0, 0, 0, 0, 0, 0, 2, 2, 2, 2, 2, 2, 2, 2, 2, 2,
      2, 2, 0]⟩ ++ Packet.frame ⟨2, [0, 0, 0, 2, 0, 0, 0]⟩
    let start : Session MemoryTransport := ofTransport
      { incoming := welcome 0x35 ++ (welcome 0x38 ++ Packet.frame ⟨1, [0, 0, 0, 2, 0, 0, 0]⟩) }
      { user := "app" }
    let first := (Operation.connect.perform start).2
    let closed := (Operation.close.perform first).2
    let second := (Operation.connect.perform closed).2
    let s := (Operation.ping.perform second).2
    let calls := [Operation.ping.call second, Operation.connect.call closed,
      Operation.close.call first, Operation.connect.call start]
    Calls s calls ∧ calls.find? Call.opens = some (Operation.connect.call closed)
      ∧ (∃ payload greeting, (Operation.connect.call closed).received.head? = some payload
        ∧ Greeting.parse payload = .ok greeting ∧ s.serverVersion = some greeting.serverVersion)
      ∧ first.serverVersion = some "5" ∧ s.serverVersion = some "8" ∧ s.state = .authenticated
      ∧ (Operation.ping.call second).state = .authenticated := by
  intro welcome start first closed second s calls
  have hstart : Calls start [] := .ofTransport _ _
  have hfirst : Calls first [Operation.connect.call start] := hstart.perform .connect
  have hclosed : Calls closed [Operation.close.call first, Operation.connect.call start] :=
    hfirst.perform .close
  have h : Calls s calls := (hclosed.perform .connect).perform .ping
  have hping : (Operation.ping.call second).opens = false := rfl
  have hopens : (Operation.connect.call closed).opens = true := by decide +kernel
  have hlatest : calls.find? Call.opens = some (Operation.connect.call closed) := by
    simp only [calls, List.find?_cons, hping, hopens]
  obtain ⟨hversion, hopen⟩ := Calls.serverVersion_of_latest_opening h
  rw [hlatest] at hversion
  have hstate : s.state = .authenticated := by decide +kernel
  have hmem : Operation.ping.call second ∈ calls.takeWhile (!Call.opens ·) := by
    simp only [calls, List.takeWhile_cons, hping, Bool.not_false, if_true, List.mem_cons_self]
  have hsince := (hopen hstate).2 (Operation.ping.call second) hmem
  exact ⟨h, hlatest, hversion, by decide +kernel, by decide +kernel, hstate, hsince⟩

/-- A session that has been closed still gives the version of the server that it was
open with, so there is a version without an authenticated session. -/
theorem close_leaves_serverVersion :
    ¬ ∀ s : Session MemoryTransport, Reachable s →
      (s.serverVersion.isSome = true ↔ s.state = .authenticated) := by
  intro hclaim
  have h := ((Reachable.ofTransport (MemoryTransport.welcoming 7 []) { user := "app" }).perform
    .connect).perform .close
  exact absurd (hclaim _ h).mp (by decide +kernel)

end Session

end SqlWire
