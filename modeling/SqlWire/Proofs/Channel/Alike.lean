import SqlWire.Proofs.Agree
import SqlWire.Transport.Memory

/-!
# Channels over transports that behave alike

Two transports behave alike if no operation, however often and in whatever order
they are used, ever gives something else on one than on the other: a bisimulation
relates them. What they are underneath, and what they remember of their past, may
differ (`MemoryTransport.bisimulation`). Channels that are due the same number and
spend the same number of polls then send and receive alike, whatever else of the
channels is compared, if it stands the same entries in both journals
(`Channel.Parallel.simulates_receive`, `Channel.Parallel.simulates_send`).
-/

set_option autoImplicit false

namespace SqlWire

open SqlWire.Action

/-- Related transports give the same from here on, whatever is asked of them. Each
operation gives equal results on both and leaves them related, so that no sequence
of operations can tell them apart. -/
structure Bisimulation {τ ρ : Type} [Transport τ] [Transport ρ] (related : τ → ρ → Prop) : Prop where
  connect : ∀ host port,
    Simulates related (Transport.connect host port) (Transport.connect host port)
  write : ∀ bs, Simulates related (Transport.write bs) (Transport.write bs)
  readByte : Simulates related Transport.readByte Transport.readByte
  available : Simulates related Transport.available Transport.available
  close : ∀ {t : τ} {r : ρ}, related t r → related (Transport.close t) (Transport.close r)
  isConnected : ∀ {t : τ} {r : ρ}, related t r →
    Transport.isConnected t = Transport.isConnected r

namespace MemoryTransport

/-- The same is to come, whatever came before. The bytes written and the attempts
made are left out: no operation reads them. -/
structure SameFuture (t r : MemoryTransport) : Prop where
  connected : t.connected = r.connected
  refusals : t.refusals = r.refusals
  incoming : t.incoming = r.incoming

/-- Whatever is written, be it two things, makes no difference to what is to come. A
write depends on the connection alone and adds to a field that no operation reads. -/
theorem simulates_write (bs bs' : Bytes) : Simulates SameFuture (write bs) (write bs') := by
  intro t r h
  apply Agree.get_bind
  rw [h.connected]
  refine (agree_ensure _ _ h h).bind ?_
  intro _ t' r' h'
  exact ⟨_, rfl, rfl, h.refusals, h.incoming⟩

/-- Neither the attempts that were made nor the bytes that were written show. So two
transports that hold the same bytes to be read are related, whatever sessions have
been led over them. -/
theorem bisimulation : Bisimulation SameFuture where
  connect _ _ t r h := by
    show Agree connect connect t r SameFuture SameFuture
    apply Agree.get_bind
    rw [h.refusals]
    split
    -- The refusals that are left are the same, so both attempts succeed or both are
    -- refused.
    case isTrue hnone => exact ⟨_, rfl, rfl, rfl, h.incoming⟩
    case isFalse hrefused => exact ⟨_, rfl, h.connected, rfl, h.incoming⟩
  write bs := simulates_write bs bs
  readByte t r h := by
    show Agree readByte readByte t r SameFuture SameFuture
    apply Agree.get_bind
    rw [h.incoming]
    split
    · exact ⟨_, rfl, h.connected, h.refusals, rfl⟩
    · exact agree_throw _ h
  available t r h := by
    show Agree available available t r SameFuture SameFuture
    apply Agree.get_bind
    rw [h.incoming]
    exact agree_pure _ h
  close h := ⟨rfl, h.refusals, h.incoming⟩
  isConnected h := h.connected

end MemoryTransport

namespace Channel

variable {τ ρ : Type} {related : τ → ρ → Prop} {K : Channel τ → Channel ρ → Prop}
  {numbers : UInt8 → UInt8 → Prop}

/-- A relation of channels that asks of the transports no more than that they are
related, and that does not mind what is entered in both journals. It may compare
anything else of the channels. -/
structure OverTransports (related : τ → ρ → Prop) (K : Channel τ → Channel ρ → Prop) : Prop where
  transport : ∀ {c : Channel τ} {d : Channel ρ}, K c d → related c.transport d.transport
  withTransport : ∀ {c : Channel τ} {d : Channel ρ} {t : τ} {r : ρ}, K c d → related t r →
    K { c with transport := t } { d with transport := r }
  noted : ∀ {c : Channel τ} {d : Channel ρ} (event : Event), K c d → K (c.noted event) (d.noted event)

/-- One by which the channels are due the same number and wait as long. These two
are all that sending and receiving read of a channel besides its transport. -/
structure Parallel (related : τ → ρ → Prop) (K : Channel τ → Channel ρ → Prop) : Prop extends
    OverTransports related K where
  readAttempts : ∀ {c : Channel τ} {d : Channel ρ}, K c d → c.readAttempts = d.readAttempts
  sequence : ∀ {c : Channel τ} {d : Channel ρ}, K c d → c.sequence = d.sequence
  withSequence : ∀ {c : Channel τ} {d : Channel ρ} (sequence : UInt8), K c d →
    K { c with sequence } { d with sequence }

/-- A relation that a new exchange turns into a closer one. Before it the numbers
that are due may differ, for the exchange begins by setting both to zero. -/
structure Opens (related : τ → ρ → Prop) (K₀ K : Channel τ → Channel ρ → Prop) : Prop extends
    OverTransports related K₀ where
  reset : ∀ {c : Channel τ} {d : Channel ρ}, K₀ c d →
    K { c with sequence := 0 } { d with sequence := 0 }
  weaken : ∀ {c : Channel τ} {d : Channel ρ}, K c d → K₀ c d

/-- A relation by which the numbers agree already is its own closer one. So nothing
has to be made alike first. -/
theorem Parallel.opens (hK : Parallel related K) : Opens related K K where
  toOverTransports := hK.toOverTransports
  reset h := hK.withSequence 0 h
  weaken h := h

/-- The transports are related, waits are as long, and the numbers that are due are
related. The journals are not compared. -/
structure Alike (related : τ → ρ → Prop) (numbers : UInt8 → UInt8 → Prop) (c : Channel τ)
    (d : Channel ρ) : Prop where
  transport : related c.transport d.transport
  readAttempts : c.readAttempts = d.readAttempts
  sequence : numbers c.sequence d.sequence

/-- Whatever relation of numbers it is made with, it asks nothing of the transports
but that they are related, and nothing of the journals. -/
theorem overTransports_alike : OverTransports related (Alike related numbers) where
  transport h := h.transport
  withTransport h ht := ⟨ht, h.readAttempts, h.sequence⟩
  noted _ h := ⟨h.transport, h.readAttempts, h.sequence⟩

/-- With equality for the numbers, it is one by which channels send and receive
alike. -/
theorem parallel_alike : Parallel related (Alike related Eq) where
  toOverTransports := overTransports_alike
  readAttempts h := h.readAttempts
  sequence h := h.sequence
  withSequence _ h := ⟨h.transport, h.readAttempts, rfl⟩

/-- A new exchange makes the numbers equal. Equal numbers are related in turn, if
the relation of numbers is reflexive, so nothing is lost by having opened one. -/
theorem opens_alike (hnumbers : ∀ number, numbers number number) :
    Opens related (Alike related numbers) (Alike related Eq) where
  toOverTransports := overTransports_alike
  reset h := ⟨h.transport, h.readAttempts, rfl⟩
  weaken {c d} h := by
    have hsame : numbers c.sequence d.sequence := by
      rw [h.sequence]
      exact hnumbers d.sequence
    exact ⟨h.transport, h.readAttempts, hsame⟩

/-- What is done to related transports is done to channels over them. The results
are equal, and the relation of the channels survives with the transports exchanged
for those that come out. -/
theorem OverTransports.simulates_onTransport (hK : OverTransports related K) {α : Type}
    {action : EStateM Error τ α} {model : EStateM Error ρ α} (h : Simulates related action model) :
    Simulates K (onTransport action) (onTransport model) := by
  intro c d hc
  apply Agree.focus
  refine (h.agree (hK.transport hc)).mono ?_ ?_
  · intro t r ht
    exact hK.withTransport hc ht
  · intro t r ht
    exact hK.withTransport hc ht

/-- Entering an event in both journals keeps the relation, whichever way it compares
the journals. -/
theorem OverTransports.simulates_note (hK : OverTransports related K) (event : Event) :
    Simulates K (note event) (note event) := by
  apply simulates_modify
  intro c d h
  exact hK.noted event h

variable [Transport τ] [Transport ρ]

/-- Waits of the same length come to the same. The polls give equal counts, so both
go on or both stop. -/
theorem simulates_await (hR : Bisimulation related) (attempts : Nat) :
    Simulates related (await attempts) (await attempts) := by
  induction attempts with
  | zero => exact simulates_throw _
  | succ attempts ih =>
    apply Simulates.bind (hR.available.adaptExcept _)
    intro ready
    by_cases hready : ready = 0
    · rw [if_pos hready, if_pos hready]
      exact ih
    · rw [if_neg hready, if_neg hready]
      exact simulates_pure _

/-- A round begins alike on both, since the credit is the same: both have bytes
announced, or both wait. -/
theorem simulates_replenish (hR : Bisimulation related) (attempts credit : Nat) :
    Simulates related (replenish attempts credit) (replenish attempts credit) := by
  unfold replenish
  by_cases hcredit : credit = 0
  · rw [if_pos hcredit, if_pos hcredit]
    exact simulates_await hR attempts
  · rw [if_neg hcredit, if_neg hcredit]
    exact simulates_pure _

/-- Reads of the same length give the same bytes. The induction is on the bytes that
are missing. -/
theorem simulates_readExactly (hR : Bisimulation related) (attempts missing credit : Nat)
    (done : Bytes) :
    Simulates related (readExactly attempts missing credit done)
      (readExactly attempts missing credit done) := by
  -- The credit and the bytes change from one byte to the next, and are the same for both.
  induction missing generalizing credit done with
  | zero => exact simulates_pure _
  | succ missing ih =>
    apply Simulates.bind (simulates_replenish hR attempts credit)
    intro ready
    refine .bind (hR.readByte.adaptExcept _) ?_
    intro b
    exact ih _ _

namespace Parallel

/-- Channels that are due the same number receive a header alike: they read the same
bytes and compare them with the same number. -/
theorem simulates_receiveHeader (hK : Parallel related K) (hR : Bisimulation related) :
    Simulates K receiveHeader receiveHeader := by
  apply simulates_get_bind
  intro c d h
  rw [hK.readAttempts h, hK.sequence h]
  have hhead := hK.simulates_onTransport
    (simulates_readExactly hR d.readAttempts Header.size 0 [])
  refine Simulates.agree (.bind hhead ?_) h
  intro head
  apply Simulates.bind (simulates_ensure _ _)
  intro _
  refine .bind (simulates_modify fun _ _ h => hK.withSequence _ h) ?_
  intro _
  exact simulates_pure _

/-- Channels that are due the same number receive alike, and are due the same number
afterwards. -/
theorem simulates_receive (hK : Parallel related K) (hR : Bisimulation related) :
    Simulates K receive receive := by
  apply Simulates.bind (hK.simulates_receiveHeader hR)
  intro header
  apply simulates_get_bind
  intro c d h
  rw [hK.readAttempts h]
  -- The headers are equal, so the payloads that are read next are as long.
  have hpayload := hK.simulates_onTransport
    (simulates_readExactly hR d.readAttempts header.length 0 [])
  refine Simulates.agree (.bind hpayload ?_) h
  intro payload
  refine .bind (hK.simulates_note _) ?_
  intro _
  exact simulates_pure _

/-- They also send alike, be it two payloads, if these are as long and neither the
journals nor the transports mind which of them is sent. This is what keeps two
passwords apart from nothing but a scramble and its dump. -/
theorem simulates_send_of_length (hK : Parallel related K) {payload payload' : Bytes}
    (hlength : payload.length = payload'.length)
    (hnoted : ∀ {c : Channel τ} {d : Channel ρ} (sequence : UInt8), K c d →
      K (c.noted (.sent sequence payload)) (d.noted (.sent sequence payload')))
    (hwrite : ∀ sequence : UInt8, Simulates related
      (Transport.write (Packet.frame ⟨sequence, payload⟩))
      (Transport.write (Packet.frame ⟨sequence, payload'⟩))) :
    Simulates K (send payload) (send payload') := by
  rw [send, send, hlength]
  apply Simulates.bind (simulates_ensure _ _)
  intro _
  apply simulates_get_bind
  intro c d h
  rw [hK.sequence h]
  refine Simulates.agree (.bind (simulates_modify fun _ _ h => hnoted _ h) ?_) h
  intro _
  apply Simulates.bind (simulates_modify fun _ _ h => hK.withSequence _ h)
  intro _
  exact hK.simulates_onTransport ((hwrite _).adaptExcept _)

/-- The same payload is sent alike. The two headers are the same, since the numbers
are. -/
theorem simulates_send (hK : Parallel related K) (hR : Bisimulation related) (payload : Bytes) :
    Simulates K (send payload) (send payload) := by
  refine hK.simulates_send_of_length rfl ?_ ?_
  · intro c d sequence h
    exact hK.noted _ h
  · intro sequence
    exact hR.write _

end Parallel

end Channel

end SqlWire
