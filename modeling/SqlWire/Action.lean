/-!
# Actions

What this library does step by step is an `EStateM ε σ α`: it gives a value or
fails, and either way it leaves a state. Such actions are written in `do` notation
and run by `EStateM.run`. This module adds `ensure`, which fails unless a condition
holds, `focus`, which lets an action on a part of a state act on the whole,
`outcome`, which turns a failure into a value, and the equations of `run` that core
lacks.
-/

set_option autoImplicit false

namespace SqlWire.Action

variable {ε σ ρ α β : Type}

/-- Fails unless a condition holds. Checks of the state and of what a server sent
are written with it. -/
def ensure (condition : Prop) [Decidable condition] (e : ε) : EStateM ε σ Unit :=
  if condition then pure () else throw e

/-- A check gives nothing and changes nothing; it only decides whether the action
goes on. -/
@[simp] theorem run_ensure (condition : Prop) [Decidable condition] (e : ε) (s : σ) :
    (ensure condition e : EStateM ε σ Unit).run s
      = if condition then .ok () s else .error e s := by
  unfold ensure
  split <;> rfl

/-- Acts on a part of the state. The part is put back whether the action succeeds or
fails, so a failure keeps what has been done to it. -/
def focus (part : σ → ρ) (replace : ρ → σ → σ) (action : EStateM ε ρ α) : EStateM ε σ α := fun s =>
  match action.run (part s) with
  | .ok a r => .ok a (replace r s)
  | .error e r => .error e (replace r s)

/-- The rest of the state is the one from before, in both cases. -/
@[simp] theorem run_focus (part : σ → ρ) (replace : ρ → σ → σ) (action : EStateM ε ρ α) (s : σ) :
    (focus part replace action).run s
      = match action.run (part s) with
        | .ok a r => .ok a (replace r s)
        | .error e r => .error e (replace r s) := rfl

/-- Tells what the action comes to, and does not fail itself. It is how a failure is
passed over. -/
def outcome {ε' : Type} (action : EStateM ε σ α) : EStateM ε' σ (Except ε α) := fun s =>
  match action.run s with
  | .ok a s => .ok (.ok a) s
  | .error e s => .ok (.error e) s

/-- The state is the one that the action has left, whichever way it ended. -/
@[simp] theorem run_outcome {ε' : Type} (action : EStateM ε σ α) (s : σ) :
    (outcome action : EStateM ε' σ (Except ε α)).run s
      = match action.run s with
        | .ok a s => .ok (.ok a) s
        | .error e s => .ok (.error e) s := rfl

/-- Gives what an outcome gives, and fails where it fails. -/
def ofExcept : Except ε α → EStateM ε σ α
  | .ok a => pure a
  | .error e => throw e

/-- A failure leaves the state as it is. -/
@[simp] theorem run_fail (e : ε) (s : σ) : (throw e : EStateM ε σ α).run s = .error e s := rfl

/-- What is made of the value does not touch the state. -/
@[simp] theorem run_map (f : α → β) (action : EStateM ε σ α) (s : σ) :
    (f <$> action).run s
      = match action.run s with
        | .ok a s => .ok (f a) s
        | .error e s => .error e s := rfl

/-- A handler goes on from the state that the failure left. -/
@[simp] theorem run_tryCatch (action : EStateM ε σ α) (handler : ε → EStateM ε σ α) (s : σ) :
    (tryCatch action handler).run s
      = match action.run s with
        | .ok a s => .ok a s
        | .error e s => (handler e).run s := by
  show EStateM.tryCatch action handler s = _
  delta EStateM.tryCatch EStateM.run
  cases action s <;> rfl

/-- An outcome that is known beforehand leaves the state as it is. -/
@[simp] theorem run_ofExcept (outcome : Except ε α) (s : σ) :
    (ofExcept outcome : EStateM ε σ α).run s
      = match outcome with
        | .ok a => .ok a s
        | .error e => .error e s := by
  cases outcome <;> rfl

end SqlWire.Action
