import SqlWire.Proofs.Channel.Account

/-!
# Reading uses bytes up

A finite transport bounds the bytes that can still be read. Waiting does not raise
the bound, each byte taken lowers it, and so each packet received lowers it by its
header at least (`Channel.ends_receive_backlog`).
-/

set_option autoImplicit false

namespace SqlWire.Channel

open SqlWire.Action FiniteTransport

variable {τ : Type} [FiniteTransport τ]

/-- Waiting does not raise the bound, however often it polls. What a poll announces
was counted already. -/
theorem ends_await_backlog (attempts : Nat) (t : τ) :
    Ends (await attempts) t (fun _ t' => backlog t' ≤ backlog t) (fun _ _ => True) := by
  induction attempts generalizing t with
  | zero => trivial
  | succ attempts ih =>
    rw [await, ends_bind, poll, ends_adaptExcept]
    refine (ends_run Transport.available t).mono ?_ (fun _ _ _ => trivial)
    intro ready t₁ h₁
    have hpoll : backlog t₁ ≤ backlog t := backlog_available h₁
    by_cases hready : ready = 0
    · -- An empty answer has not raised the bound either, and the wait goes on from there.
      rw [if_pos hready]
      refine (ih t₁).mono ?_ (fun _ _ h => h)
      intro ready t₂ h₂
      exact Nat.le_trans h₂ hpoll
    · rw [if_neg hready]
      exact hpoll

/-- The bytes delivered and those that can still be read are within a bound that
held at first. Stated as an account, this carries over to everything that a channel
reads. -/
theorem account_backlog (attempts bound : Nat) :
    Account attempts (fun bs (t : τ) => bs.length + backlog t ≤ bound)
      (fun _ bs _ => bs.length ≤ bound) where
  await {bs t} ht := by
    refine (ends_await_backlog attempts t).mono ?_ ?_
    · intro _ t' ht'
      exact Nat.le_trans (Nat.add_le_add_left ht' _) ht
    · intro _ _ _
      exact Nat.le_trans (Nat.le_add_right _ _) ht
  takeByte {bs t} ht := by
    rw [takeByte, ends_adaptExcept]
    refine (ends_run Transport.readByte t).mono ?_ ?_
    · intro b t' ht'
      -- What is delivered comes off the backlog, so the sum does not grow.
      have hbyte : backlog t' < backlog t := backlog_readByte ht'
      rw [List.length_append, List.length_singleton]
      omega
    · intro _ _ _
      exact Nat.le_trans (Nat.le_add_right _ _) ht

/-- A packet has a header, if nothing else. So the packets that can still be
received are fewer than the bytes that can still be read, and a loop that reads
packets comes to an end. -/
theorem ends_receive_backlog (c : Channel τ) :
    Ends receive c (fun _ c' => backlog c'.transport < backlog c.transport) (fun _ _ => True) := by
  refine ((account_backlog c.readAttempts (backlog c.transport)).ends_receive
    (by simp)).mono ?_ (fun _ _ _ => trivial)
  intro p c' hp
  obtain ⟨hlength, -⟩ := hp
  rw [Packet.length_frame, Header.size] at hlength
  omega

end SqlWire.Channel
