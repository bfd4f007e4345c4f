import SqlWire.Proofs.Collect

/-!
# Two actions that agree

Two actions, each from a state of its own, agree if both succeed with one value or
both fail with one error, and leave states that are related (`Action.Agree`). The
states may be of different types, and how they are related may differ between
success and failure. The rules follow the ways in which actions are put together, as
those of `Ends` do; an action that looks at its state needs a rule of its own,
`Agree.get_bind`, because the two actions see two states.

Where all states that are related stay so, this is `Action.Simulates`. Its rules
need no states, as those of `Maintains` do not.

Two loops may have different fuel. Where each step uses something up, fuel beyond
what there is to use up makes no difference, so both loops can be given the same
(`Simulates.collect`).
-/

set_option autoImplicit false

namespace SqlWire

open SqlWire.Action

namespace Action

variable {ε δ σ ρ σ' ρ' α β : Type}

/-- From `s` and `r` both actions succeed with one value or both fail with one
error, and the states that they leave are as `ok` or as `bad` says. The states
before are given and not quantified over, since what is known of them may be used up
by the first step of the actions. -/
def Agree (action : EStateM ε σ α) (model : EStateM ε ρ α) (s : σ) (r : ρ)
    (ok bad : σ → ρ → Prop) : Prop :=
  Ends action s (fun a s' => ∃ r', model.run r = .ok a r' ∧ ok s' r')
    (fun e s' => ∃ r', model.run r = .error e r' ∧ bad s' r')

variable {action : EStateM ε σ α} {model : EStateM ε ρ α} {s : σ} {r : ρ} {ok bad : σ → ρ → Prop}

/-- Actions that simulate each other agree from any states that are related. The
relation is that of the simulation, at either end. -/
theorem Simulates.agree (h : Simulates ok action model) (hs : ok s r) :
    Agree action model s r ok ok :=
  h s r hs

/-- The two runs side by side. The definition is put as `Ends` of the first action,
so that the rules for one action apply; this is the form in which both are treated
alike. -/
theorem agree_iff :
    Agree action model s r ok bad
      ↔ (∃ a s' r', action.run s = .ok a s' ∧ model.run r = .ok a r' ∧ ok s' r')
        ∨ ∃ e s' r', action.run s = .error e s' ∧ model.run r = .error e r' ∧ bad s' r' := by
  unfold Agree Ends
  -- How the first run ends decides which of the two alternatives it can be.
  cases hrun : action.run s with
  | ok a s' =>
    constructor
    · rintro ⟨r', hmodel, h⟩
      exact .inl ⟨a, s', r', rfl, hmodel, h⟩
    · rintro (⟨_, _, r', ⟨⟩, hmodel, h⟩ | ⟨_, _, _, ⟨⟩, _⟩)
      exact ⟨r', hmodel, h⟩
  | error e s' =>
    constructor
    · rintro ⟨r', hmodel, h⟩
      exact .inr ⟨e, s', r', rfl, hmodel, h⟩
    · rintro (⟨_, _, _, ⟨⟩, _⟩ | ⟨_, _, r', ⟨⟩, hmodel, h⟩)
      exact ⟨r', hmodel, h⟩

/-- Two runs that succeed with one value agree, if the states they leave are
related. -/
theorem agree_of_run_ok {a : α} {s' : σ} {r' : ρ} (hrun : action.run s = .ok a s')
    (hmodel : model.run r = .ok a r') (h : ok s' r') : Agree action model s r ok bad := by
  rw [agree_iff]
  exact .inl ⟨a, s', r', hrun, hmodel, h⟩

/-- Two runs that fail with one error agree, if the states they leave are related.
Together with the law above this covers all runs that can agree. -/
theorem agree_of_run_error {e : ε} {s' : σ} {r' : ρ} (hrun : action.run s = .error e s')
    (hmodel : model.run r = .error e r') (h : bad s' r') : Agree action model s r ok bad := by
  rw [agree_iff]
  exact .inr ⟨e, s', r', hrun, hmodel, h⟩

/-- Both give the same value and leave the states as they are, so these have to be
related already. -/
theorem agree_pure (a : α) (h : ok s r) : Agree (pure a : EStateM ε σ α) (pure a) s r ok bad := by
  have hrun : (pure a : EStateM ε σ α).run s = .ok a s := rfl
  exact agree_of_run_ok hrun rfl h

/-- Both fail with the same error and leave the states as they are, which have to be
related as failures ask. -/
theorem agree_throw (e : ε) (h : bad s r) :
    Agree (throw e : EStateM ε σ α) (throw e) s r ok bad := by
  have hrun : (throw e : EStateM ε σ α).run s = .error e s := rfl
  exact agree_of_run_error hrun rfl h

/-- Both change their states, each in its own way, and the changed states are what
has to be related. -/
theorem agree_modify {R : σ → ρ → Prop} {f : σ → σ} {g : ρ → ρ} (h : R (f s) (g r)) :
    Agree (modify f : EStateM ε σ PUnit) (modify g) s r R bad := by
  have hrun : (modify f : EStateM ε σ PUnit).run s = .ok () (f s) := rfl
  exact agree_of_run_ok hrun rfl h

/-- Both check one condition, so either both go on or both fail. A condition that is
about the states is a matter for `get_bind` first. -/
theorem agree_ensure {R : σ → ρ → Prop} (condition : Prop) [Decidable condition] (e : ε)
    (hok : R s r) (hbad : bad s r) :
    Agree (ensure condition e) (ensure condition e) s r R bad := by
  unfold ensure
  by_cases h : condition
  · rw [if_pos h, if_pos h]
    exact agree_pure () hok
  · rw [if_neg h, if_neg h]
    exact agree_throw e hbad

/-- Both end as one outcome says. The states are what they were, so they have to be
related in both ways. -/
theorem agree_ofExcept (outcome : Except ε α) (hok : ok s r) (hbad : bad s r) :
    Agree (ofExcept outcome) (ofExcept outcome) s r ok bad := by
  cases outcome with
  | ok a => exact agree_pure a hok
  | error e => exact agree_throw e hbad

namespace Agree

/-- What is asked of the states may be weakened, at the successes and at the
failures. -/
theorem mono {ok' bad' : σ → ρ → Prop} (h : Agree action model s r ok bad)
    (hok : ∀ s' r', ok s' r' → ok' s' r') (hbad : ∀ s' r', bad s' r' → bad' s' r') :
    Agree action model s r ok' bad' := by
  apply Ends.mono h
  · rintro a s' ⟨r', hmodel, h'⟩
    exact ⟨r', hmodel, hok s' r' h'⟩
  · rintro e s' ⟨r', hmodel, h'⟩
    exact ⟨r', hmodel, hbad s' r' h'⟩

/-- The second actions start where the first ones succeeded, with the value that
both of these gave. -/
theorem bind {ok' : σ → ρ → Prop} {next : α → EStateM ε σ β} {next' : α → EStateM ε ρ β}
    (h : Agree action model s r ok bad)
    (hnext : ∀ a s' r', ok s' r' → Agree (next a) (next' a) s' r' ok' bad) :
    Agree (action >>= next) (model >>= next') s r ok' bad := by
  obtain ⟨a, s', r', hrun, hmodel, h'⟩ | ⟨e, s', r', hrun, hmodel, h'⟩ := agree_iff.mp h
  · have hend := hnext a s' r' h'
    rw [agree_iff] at hend ⊢
    rw [EStateM.run_bind, EStateM.run_bind, hrun, hmodel]
    exact hend
  · -- Both fail before their second actions are come to.
    have hfailed : (action >>= next).run s = .error e s' := by rw [EStateM.run_bind, hrun]
    have hfailed' : (model >>= next').run r = .error e r' := by rw [EStateM.run_bind, hmodel]
    exact agree_of_run_error hfailed hfailed' h'

/-- Each action goes on from the state that it sees. These are two states, and what
the actions go on with may differ by them. -/
theorem get_bind {next : σ → EStateM ε σ α} {next' : ρ → EStateM ε ρ α}
    (h : Agree (next s) (next' r) s r ok bad) :
    Agree (get >>= next) (get >>= next') s r ok bad :=
  h

/-- Both word their errors in the same way, so errors that were the same are the
same again. -/
theorem adaptExcept (f : ε → δ) (h : Agree action model s r ok bad) :
    Agree (action.adaptExcept f) (model.adaptExcept f) s r ok bad := by
  obtain ⟨a, s', r', hrun, hmodel, h'⟩ | ⟨e, s', r', hrun, hmodel, h'⟩ := agree_iff.mp h
  · have hrun' : (action.adaptExcept f).run s = .ok a s' := by
      rw [EStateM.run_adaptExcept, hrun]
    have hmodel' : (model.adaptExcept f).run r = .ok a r' := by
      rw [EStateM.run_adaptExcept, hmodel]
    exact agree_of_run_ok hrun' hmodel' h'
  · have hrun' : (action.adaptExcept f).run s = .error (f e) s' := by
      rw [EStateM.run_adaptExcept, hrun]
    have hmodel' : (model.adaptExcept f).run r = .error (f e) r' := by
      rw [EStateM.run_adaptExcept, hmodel]
    exact agree_of_run_error hrun' hmodel' h'

/-- Both outcomes are values now, so the states are related in one way, whatever it
was that happened. -/
theorem outcome (h : Agree action model s r ok ok) :
    Agree (Action.outcome action : EStateM δ σ (Except ε α)) (Action.outcome model) s r ok bad := by
  obtain ⟨a, s', r', hrun, hmodel, h'⟩ | ⟨e, s', r', hrun, hmodel, h'⟩ := agree_iff.mp h
  · exact agree_of_run_ok (by rw [run_outcome, hrun]) (by rw [run_outcome, hmodel]) h'
  · exact agree_of_run_ok (by rw [run_outcome, hrun]) (by rw [run_outcome, hmodel]) h'

/-- The handlers start where the actions failed. The states may be related in a way
of their own there, in which the actions leave them and the handlers find them. -/
theorem tryCatch {caught : σ → ρ → Prop} {handler : ε → EStateM ε σ α}
    {handler' : ε → EStateM ε ρ α} (h : Agree action model s r ok caught)
    (hhandler : ∀ e s' r', caught s' r' → Agree (handler e) (handler' e) s' r' ok bad) :
    Agree (MonadExcept.tryCatch action handler) (MonadExcept.tryCatch model handler') s r ok
      bad := by
  obtain ⟨a, s', r', hrun, hmodel, h'⟩ | ⟨e, s', r', hrun, hmodel, h'⟩ := agree_iff.mp h
  · exact agree_of_run_ok (by rw [run_tryCatch, hrun]) (by rw [run_tryCatch, hmodel]) h'
  · have hend := hhandler e s' r' h'
    rw [agree_iff] at hend ⊢
    rw [run_tryCatch, run_tryCatch, hrun, hmodel]
    exact hend

/-- Actions that agree on parts agree on the wholes around them, where the relation
is read off with the parts put back. -/
theorem focus {ok bad : σ' → ρ' → Prop} {part : σ' → σ} {replace : σ → σ' → σ'} {part' : ρ' → ρ}
    {replace' : ρ → ρ' → ρ'} {s : σ'} {r : ρ'}
    (h : Agree action model (part s) (part' r) (fun c d => ok (replace c s) (replace' d r))
      (fun c d => bad (replace c s) (replace' d r))) :
    Agree (Action.focus part replace action) (Action.focus part' replace' model) s r ok bad := by
  obtain ⟨a, c, d, hrun, hmodel, h'⟩ | ⟨e, c, d, hrun, hmodel, h'⟩ := agree_iff.mp h
  · exact agree_of_run_ok (by rw [run_focus, hrun]) (by rw [run_focus, hmodel]) h'
  · exact agree_of_run_error (by rw [run_focus, hrun]) (by rw [run_focus, hmodel]) h'

end Agree

/-! ### Simulations -/

/-- Giving a value is simulated by giving it, over whatever relation. -/
theorem simulates_pure (a : α) : Simulates ok (pure a : EStateM ε σ α) (pure a) := by
  intro s r h
  exact agree_pure a h

/-- Failing is simulated by failing with the same error, over whatever relation. -/
theorem simulates_throw (e : ε) : Simulates ok (throw e : EStateM ε σ α) (throw e) := by
  intro s r h
  exact agree_throw e h

/-- A change is simulated by a change that leaves related states related. The two
changes need not be the same one. -/
theorem simulates_modify {f : σ → σ} {g : ρ → ρ} (h : ∀ s r, ok s r → ok (f s) (g r)) :
    Simulates ok (modify f : EStateM ε σ PUnit) (modify g) := by
  intro s r hs
  have hchanged : ok (f s) (g r) := h s r hs
  exact agree_modify hchanged

/-- A check is simulated by the same check. Where a check looks at the state, its
condition has to be shown to be the same first. -/
theorem simulates_ensure (condition : Prop) [Decidable condition] (e : ε) :
    Simulates ok (ensure condition e) (ensure condition e) := by
  intro s r h
  exact agree_ensure condition e h h

/-- Each action goes on from the state that it sees. This is where the relation is
used: whatever both actions look at has to come out of it. -/
theorem simulates_get_bind {next : σ → EStateM ε σ α} {next' : ρ → EStateM ε ρ α}
    (h : ∀ s r, ok s r → Agree (next s) (next' r) s r ok ok) :
    Simulates ok (get >>= next) (get >>= next') := by
  intro s r hs
  exact (h s r hs).get_bind

namespace Simulates

/-- Simulations go on one after the other. No relation in between is needed, as
there is only one. -/
theorem bind {next : α → EStateM ε σ β} {next' : α → EStateM ε ρ β}
    (h : Simulates ok action model) (hnext : ∀ a, Simulates ok (next a) (next' a)) :
    Simulates ok (action >>= next) (model >>= next') := by
  intro s r hs
  refine (h.agree hs).bind ?_
  intro a s' r' hs'
  exact (hnext a).agree hs'

/-- Wording the errors keeps a simulation, for it makes one error of what was one
error. -/
theorem adaptExcept (h : Simulates ok action model) (f : ε → δ) :
    Simulates ok (action.adaptExcept f) (model.adaptExcept f) := by
  intro s r hs
  exact (h.agree hs).adaptExcept f

/-- So does turning failures into values: two simulating actions fail together, and
with one error. -/
theorem outcome (h : Simulates ok action model) :
    Simulates ok (Action.outcome action : EStateM δ σ (Except ε α)) (Action.outcome model) := by
  intro s r hs
  exact (h.agree hs).outcome

end Simulates

end Action

/-! ### Loops -/

section Loops

variable {σ ρ α : Type} {measure : σ → Nat} {step : EStateM Error σ (Option α)}

variable {measure' : ρ → Nat} {model : EStateM Error ρ (Option α)} {related : σ → ρ → Prop}

/-- With the same fuel, the loops agree round after round. The induction is on the
fuel, with the elements that have been collected left open. -/
theorem Action.Simulates.collect_same (h : Simulates related step model) (fuel : Nat)
    (done : List α) : Simulates related (collect step fuel done) (collect model fuel done) := by
  induction fuel generalizing done with
  | zero => exact simulates_throw _
  | succ fuel ih =>
    apply Simulates.bind h
    intro value
    cases value with
    | none => exact simulates_pure _
    | some a => exact ih (a :: done)

/-- With enough fuel each, they agree as well. The loops of a session take their
fuel from what its transport may still bring, which two transports need not tell
alike. -/
theorem Action.Simulates.collect (h : Simulates related step model) (hstep : UsesUp measure step)
    (hmodel : UsesUp measure' model) {s : σ} {r : ρ} (hs : related s r) {fuel fuel' : Nat}
    (hfuel : measure s < fuel) (hfuel' : measure' r < fuel') (done : List α) :
    Agree (collect step fuel done) (collect model fuel' done) s r related related := by
  -- The larger fuel is enough for both loops, and more than enough changes nothing.
  have hsame := (h.collect_same (max fuel fuel') done).agree hs
  rw [agree_iff] at hsame ⊢
  rw [run_collect_eq_of_le hstep hfuel (Nat.le_max_left fuel fuel'),
    run_collect_eq_of_le hmodel hfuel' (Nat.le_max_right fuel fuel')] at hsame
  exact hsame

end Loops

end SqlWire
