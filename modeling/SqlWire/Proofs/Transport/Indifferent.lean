import Mathlib.Data.List.Forall2
import SqlWire.Proofs.Channel.Alike
import SqlWire.Transport.Recorded

/-!
# Transports that do not mind what is written

Transports that behave alike may still tell by their behaviour what was written to
them. `Indifferent` says that they do not: writing to one of them and writing
something else of the same length to the other leaves them alike. A transport in
memory is indifferent (`MemoryTransport.indifferent`).

Recorded transports are alike if those inside are and if the records are, call by
call (`Recorded.Alike`). Which calls count as alike is left open.
-/

set_option autoImplicit false

namespace SqlWire

open SqlWire.Action

/-- Related transports give the same whatever is asked of them, and whatever is
written, as long as it is of one length. Two passwords give two logins of one
length, so this is what a transport must not mind for them not to be told apart. -/
structure Indifferent {τ ρ : Type} [Transport τ] [Transport ρ] (related : τ → ρ → Prop) : Prop
    extends Bisimulation related where
  writeAny : ∀ {bs bs' : Bytes}, bs.length = bs'.length →
    Simulates related (Transport.write bs) (Transport.write bs')

/-- Memory keeps what is written and never looks at it. So its future is decided by
the bytes to come. -/
theorem MemoryTransport.indifferent : Indifferent MemoryTransport.SameFuture where
  toBisimulation := MemoryTransport.bisimulation
  writeAny _ := MemoryTransport.simulates_write _ _

namespace Recorded

variable {τ ρ : Type} {related : τ → ρ → Prop} {same : TransportCall → TransportCall → Prop}

/-- The transports inside are related, and so are the calls made to them, one by
one. The records are of one length by this, so both transports have been asked
equally often. -/
structure Alike (related : τ → ρ → Prop) (same : TransportCall → TransportCall → Prop)
    (t : Recorded τ) (r : Recorded ρ) : Prop where
  inner : related t.inner r.inner
  calls : List.Forall₂ same t.calls r.calls

/-- Calls that come to the same are recorded as such. The calls themselves may
differ, as two writes of different buffers do, if `same` lets them. -/
theorem simulates_recording {α : Type} {action : EStateM IoError τ α} {model : EStateM IoError ρ α}
    {call call' : Except IoError α → TransportCall} (h : Simulates related action model)
    (hcall : ∀ outcome, same (call outcome) (call' outcome)) :
    Simulates (Alike related same) (recording call action) (recording call' model) := by
  intro t r ht
  have hinner := agree_iff.mp (h.agree ht.inner)
  rcases hinner with ⟨a, t', r', hrun, hmodel, h'⟩ | ⟨e, t', r', hrun, hmodel, h'⟩
  · have hfirst : (recording call action).run t = .ok a ⟨t', call (.ok a) :: t.calls⟩ := by
      rw [run_recording, hrun]
    have hsecond : (recording call' model).run r = .ok a ⟨r', call' (.ok a) :: r.calls⟩ := by
      rw [run_recording, hmodel]
    exact agree_of_run_ok hfirst hsecond ⟨h', .cons (hcall _) ht.calls⟩
  · have hfirst : (recording call action).run t = .error e ⟨t', call (.error e) :: t.calls⟩ := by
      rw [run_recording, hrun]
    have hsecond : (recording call' model).run r = .error e ⟨r', call' (.error e) :: r.calls⟩ := by
      rw [run_recording, hmodel]
    exact agree_of_run_error hfirst hsecond ⟨h', .cons (hcall _) ht.calls⟩

/-- Transports that behave alike do so while a record of them is kept. The record is
only ever added to, and no operation reads it. -/
theorem bisimulation [Transport τ] [Transport ρ] (hR : Bisimulation related)
    (hsame : ∀ call, same call call) : Bisimulation (Alike related same) where
  connect host port := simulates_recording (hR.connect host port) fun _ => hsame _
  write bs := simulates_recording (hR.write bs) fun _ => hsame _
  readByte := simulates_recording hR.readByte fun _ => hsame _
  available := simulates_recording hR.available fun _ => hsame _
  close ht := ⟨hR.close ht.inner, .cons (hsame _) ht.calls⟩
  isConnected ht := hR.isConnected ht.inner

end Recorded

end SqlWire
