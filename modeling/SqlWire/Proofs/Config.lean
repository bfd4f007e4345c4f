import SqlWire.Config

/-!
# What a valid configuration promises

`Config.validate` looks for a violation and fails with the first one. A
configuration without one has a limit on queries that leaves room for the command
byte, so a query that the limit admits is never stopped by the packet size
(`fits_of_validate`).
-/

set_option autoImplicit false

namespace SqlWire.Config

/-- A configuration is valid if no violation is found in it. The check reports the
first one that is. -/
theorem validate_eq_ok_iff {c : Config} : c.validate = .ok () ↔ c.violation? = none := by
  rw [validate]
  cases c.violation? with
  | none => exact iff_of_true rfl rfl
  | some violation =>
    refine iff_of_false ?_ ?_
    · intro h
      cases h
    · intro h
      cases h

/-- A configuration without a violation passes every check. The checks come one
after the other and the first that is not passed is reported, but for a
configuration that passes them all the order does not matter. -/
theorem violation?_eq_none_iff {c : Config} :
    c.violation? = none ↔ ¬ c.host.isEmpty = true ∧ ¬ c.user.isEmpty = true
      ∧ ¬ c.connectAttempts = 0 ∧ ¬ c.readAttempts = 0
      ∧ ¬ (c.maxQuerySize = 0 ∨ queryLimit < c.maxQuerySize.toNat)
      ∧ ¬ c.clientFlags &&& Capability.protocol41 = 0 := by
  have hcheck (p : Prop) [Decidable p] (v : Violation) (next : Option Violation) :
      (if p then some v else next) = none ↔ ¬ p ∧ next = none := by
    by_cases hp : p <;> simp [hp]
  simp only [violation?, hcheck, and_true]

/-- The limit on queries is checked: it leaves room for the command byte in a packet
of the greatest length. -/
theorem maxQuerySize_le_of_validate {c : Config} (h : c.validate = .ok ()) :
    c.maxQuerySize.toNat ≤ queryLimit := by
  rw [validate_eq_ok_iff, violation?_eq_none_iff] at h
  obtain ⟨-, -, -, -, hsize, -⟩ := h
  refine Nat.le_of_not_lt ?_
  intro hlimit
  exact hsize (.inr hlimit)

/-- So is the number of attempts to connect, of which there is one at least. -/
theorem connectAttempts_ne_zero_of_validate {c : Config} (h : c.validate = .ok ()) :
    c.connectAttempts.toNat ≠ 0 := by
  rw [validate_eq_ok_iff, violation?_eq_none_iff] at h
  obtain ⟨-, -, hattempts, -⟩ := h
  intro hzero
  exact hattempts (UInt32.toNat_inj.mp hzero)

/-- A query that is sent is within the limit and fits one packet with its command
byte. -/
theorem fits_of_exceedsLimit_eq_false {c : Config} {length : Nat}
    (h : c.exceedsLimit length = false) :
    length ≤ c.maxQuerySize.toNat ∧ length + 1 < maxPayload := by
  rw [exceedsLimit, Bool.or_eq_false_iff, decide_eq_false_iff_not, decide_eq_false_iff_not] at h
  omega

/-- A query within the limit is sent, and fits one packet. The second condition of
the guard is therefore never the one that stops a query of a valid configuration. -/
theorem fits_of_validate {c : Config} (h : c.validate = .ok ()) {length : Nat}
    (hlength : length ≤ c.maxQuerySize.toNat) :
    c.exceedsLimit length = false ∧ length + 1 < maxPayload := by
  have hlimit := maxQuerySize_le_of_validate h
  have hroom : queryLimit + 1 < maxPayload := by decide
  have hfits : length + 1 < maxPayload := by omega
  refine ⟨?_, hfits⟩
  rw [exceedsLimit, Bool.or_eq_false_iff, decide_eq_false_iff_not, decide_eq_false_iff_not]
  omega

end SqlWire.Config
