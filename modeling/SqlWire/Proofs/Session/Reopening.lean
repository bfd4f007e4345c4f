import SqlWire.Proofs.Session.Alike
import SqlWire.Proofs.Session.Reachable
import SqlWire.Proofs.Transport.Memory

/-!
# A session that is opened again

`close` resets the state and the number of announced columns, and nothing else: the
number that is due, and what the server said of itself and of its last replies, stay
as they were. Opening the session again overwrites all of that. So whatever a
session has gone through, if it is closed and connected again, then it is from there
on like one that was made just now, over a transport that behaves alike
(`connect_after_close`). A connection that fails does so with the same error for
both.

The closed session and the new one are compared by three relations in turn. They
agree in the configuration, the poll budget, the state and the columns
(`alike_of_close`); opening makes them agree in all that a session remembers; and
from then on they are twins, which run alike.
-/

set_option autoImplicit false

namespace SqlWire.Session

open SqlWire.Action

section

variable {τ : Type} [Transport τ]

/-- Taking leave succeeds, whether or not the server hears of it: the command that
says so is sent, and a failure to send it is entered and passed over. -/
theorem ends_leave (s : Session τ) : Ends leave s (fun _ _ => True) (fun _ _ => False) := by
  rw [leave, ends_bind, ends_get]
  split
  case isTrue =>
    rw [sayGoodbye, ends_bind, ends_outcome]
    refine (maintains_const True _ s trivial).mono (fun _ s₁ _ => trivial) ?_
    intro e s₁ _
    simp only [note, Channel.note, onChannel, ends_focus, ends_modify]
  case isFalse => trivial

/-- Closing succeeds, and leaves a session in no state and with no columns. These
are the two things that it resets. -/
theorem ends_close (s : Session τ) :
    Ends close s (fun _ s' => s'.state = .disconnected ∧ s'.columnCount = 0) (fun _ _ => False) := by
  refine (ends_leave s).bind_of_ok ?_
  intro _ s₁ _
  rw [ends_bind, ends_modify]
  constructor
  · rfl
  · rfl

/-- Closing leaves the configuration and the poll budget, which a session has from
when it was made. -/
theorem maintains_madeWith_close {config : Config} {readAttempts : Nat} :
    Maintains (MadeWith (τ := τ) config readAttempts) close := by
  apply steady_madeWith.maintains_close
  intro s hs
  exact ⟨hs.config, hs.readAttempts⟩

end

section

variable {τ : Type} [FiniteTransport τ] {s : Session τ}

/-- No operation changes the configuration or the poll budget, however it ends. So
both can be asked of a session that has been in use. -/
theorem perform_madeWith {config : Config} {readAttempts : Nat} (operation : Operation)
    (hs : s.MadeWith config readAttempts) :
    (operation.perform s).2.MadeWith config readAttempts := by
  have hlasting : Lasting (MadeWith (τ := τ) config readAttempts) :=
    { steady_madeWith with columnCount := fun _ _ _ hs => ⟨hs.config, hs.readAttempts⟩ }
  exact hlasting.perform maintains_madeWith_connect maintains_madeWith_close operation s hs

/-- The poll budget is the one of the configuration, whatever is done with the
session. So a session that has been in use waits as long as a new one of its
configuration. -/
theorem Reachable.readAttempts_eq (h : Reachable s) :
    s.channel.readAttempts = max s.config.readAttempts.toNat 1 := by
  induction h with
  | ofTransport t config => rfl
  | @perform s operation _ ih =>
    have hmade : (operation.perform s).2.MadeWith s.config s.channel.readAttempts :=
      perform_madeWith operation ⟨rfl, rfl⟩
    rw [hmade.readAttempts, hmade.config, ih]
  | mapTransport f _ ih => exact ih
  | takeEvents _ ih => exact ih

end

variable {τ ρ : Type} [FiniteTransport τ] {related : τ → ρ → Prop} {s : Session τ}

/-- A closed session and a new one have in common what opening asks for: the
configuration, the poll budget, the state and the number of columns, over related
transports. The numbers that are due may differ, and so may all that is remembered
but the columns. -/
theorem alike_of_close (hs : Reachable s) (f : τ → τ) {t : ρ}
    (ht : related (f (Operation.close.perform s).2.channel.transport) t) :
    Alike (Channel.Alike related fun _ _ => True) Eq (fun b b' => b.columnCount = b'.columnCount)
      ((Operation.close.perform s).2.mapTransport f) (ofTransport t s.config) := by
  have hmade : (Operation.close.perform s).2.MadeWith s.config s.channel.readAttempts :=
    perform_madeWith .close ⟨rfl, rfl⟩
  have hclosed : (Operation.close.perform s).2.state = .disconnected
      ∧ (Operation.close.perform s).2.columnCount = 0 := by
    apply report_of_ends fun _ s' => s'.state = .disconnected ∧ s'.columnCount = 0
    refine (ends_close s).mono (fun _ _ h => h) ?_
    intro e s' hfalse
    exact hfalse.elim
  refine ⟨⟨ht, ?_, trivial⟩, hmade.config, hclosed.1, hclosed.2⟩
  exact hmade.readAttempts.trans hs.readAttempts_eq

/-- Whatever a session has gone through, closing it and connecting it again comes to
the same as connecting a new session of its configuration, if the transport behaves
from there on as that of the new one does. They end in the same state. If they are
open then they remember the same, are due the same number, and report the same in
every run. -/
theorem connect_after_close [FiniteTransport ρ] (hR : Bisimulation related) (s : Session τ)
    (hs : Reachable s) (f : τ → τ) (t : ρ)
    (ht : related (f (Operation.close.perform s).2.channel.transport) t) :
    let reopened := Operation.connect.perform ((Operation.close.perform s).2.mapTransport f)
    let fresh := Operation.connect.perform (ofTransport t s.config)
    reopened.1 = fresh.1 ∧ reopened.2.state = fresh.2.state
      ∧ (fresh.1.result = .ok .done →
        reopened.2.bookkeeping = fresh.2.bookkeeping
          ∧ reopened.2.channel.sequence = fresh.2.channel.sequence
          ∧ ∀ operations, (run operations reopened.2).1 = (run operations fresh.2).1) := by
  intro reopened fresh
  have htwin := parallel_twin hR
  have hagree := htwin.agree_connect (Channel.opens_alike fun _ => trivial) (fun _ _ h => h)
    htwin.simulates_sendLogin (alike_of_close hs f ht)
  obtain ⟨hreport, hends⟩ := report_of_agree (fun _ => .done) hagree
  refine ⟨hreport, ?_, ?_⟩
  · -- Both relations that an opening may end in compare the state.
    split at hends
    case isTrue => exact hends.state
    case isFalse => exact hends.state
  · intro hresult
    have hsome : fresh.1.answer?.isSome = true := by
      rw [Report.answer?_eq_some_iff.mpr hresult]
      rfl
    -- A login that succeeded leaves both sessions with the same record.
    have htwin : Twin related reopened.2 fresh.2 := by
      split at hends
      case isTrue => exact hends
      case isFalse hnone => exact absurd hsome hnone
    refine ⟨htwin.bookkeeping, htwin.channel.sequence, ?_⟩
    intro operations
    exact (run_of_twin hR operations htwin).1

/-- A session that was left with two columns announced, after a packet out of order,
and is opened again with another server. The conclusion is taken from the theorem,
and what went before is computed. -/
theorem connect_after_close_broken_off :
    let announced : Bytes := Packet.frame ⟨1, [2]⟩ ++ Packet.frame ⟨9, [0]⟩
    let s := (run [.connect, .execute [0x51], .nextField]
      (ofTransport (MemoryTransport.welcoming 7 announced) { user := "app" })).2
    let next := MemoryTransport.welcoming 8 []
    let reopened := Operation.connect.perform ((Operation.close.perform s).2.mapTransport
      fun t => { t with incoming := next.incoming })
    let fresh := Operation.connect.perform (ofTransport next s.config)
    s.columnCount = 2 ∧ s.channel.sequence = 2 ∧ s.connectionId = 7
      ∧ fresh.1.result = .ok .done ∧ reopened.1 = fresh.1
      ∧ reopened.2.bookkeeping = fresh.2.bookkeeping
      ∧ ∀ operations, (run operations reopened.2).1 = (run operations fresh.2).1 := by
  intro announced s next reopened fresh
  dsimp only [reopened, fresh]
  have hs : Reachable s := (Reachable.ofTransport _ _).run _
  have hresult : (Operation.connect.perform (ofTransport next s.config)).1.result = .ok .done :=
    Report.answer?_eq_some_iff.mp (by decide +kernel)
  have hfuture : MemoryTransport.SameFuture
      { (Operation.close.perform s).2.channel.transport with incoming := next.incoming } next :=
    ⟨by decide +kernel, by decide +kernel, rfl⟩
  have hsame := connect_after_close MemoryTransport.bisimulation s hs
    (fun t => { t with incoming := next.incoming }) next hfuture
  have hopen := hsame.2.2 hresult
  exact ⟨by decide +kernel, by decide +kernel, by decide +kernel, hresult, hsame.1, hopen.1,
    hopen.2.2⟩

end SqlWire.Session
