import SqlWire.Action

/-!
# How an action ends

An action from a given state succeeds with a value or fails with an error, and
leaves a state either way. `Action.Ends` says what holds then, once for each of the
two ends. The `ends_*` equations push it through the ways in which actions are put
together, so that a composed action is taken apart down to steps whose own ends are
known, and `Ends.mono` puts such a step in place.

`Action.Maintains` is the special case of an invariant: it holds at either end if it
held at the start. Its rules need no intermediate conditions, which makes it the
form for what a long action leaves alone. `Action.FailsOnly` does the same for the
errors that an action can fail with. `Action.FailsKeeping` asks for an invariant at
the failures alone: an action that does the work first and changes the state last
has it. `Action.Sustains` asks for less at the failures than at the success.
`Action.Simulates` compares an action with another one over another state.
-/

set_option autoImplicit false

namespace SqlWire.Action

variable {ε ε' σ ρ α β : Type}

/-- From the state `s` the action succeeds as `ok` says or fails as `bad` says. Both
conditions are about the value or the error together with the state that is left, so
what a failure leaves behind is stated along with what it reports. -/
def Ends (action : EStateM ε σ α) (s : σ) (ok : α → σ → Prop) (bad : ε → σ → Prop) : Prop :=
  match action.run s with
  | .ok a s' => ok a s'
  | .error e s' => bad e s'

variable {ok : α → σ → Prop} {bad : ε → σ → Prop} {s : σ}

/-- Both ends may be weakened. This is how a step whose own ends are known is put in
the place of what a composed action asks of it. -/
theorem Ends.mono {action : EStateM ε σ α} {ok' : α → σ → Prop} {bad' : ε → σ → Prop}
    (h : Ends action s ok bad) (hok : ∀ a s', ok a s' → ok' a s')
    (hbad : ∀ e s', bad e s' → bad' e s') : Ends action s ok' bad' := by
  -- Only the outcome of the run decides which of the two conditions is asked for.
  unfold Ends at h ⊢
  cases hrun : action.run s with
  | ok a s' =>
    rw [hrun] at h
    exact hok a s' h
  | error e s' =>
    rw [hrun] at h
    exact hbad e s' h

/-- What two arguments show of the same action holds of it together. So an invariant
and what one step does can be shown apart and used side by side. -/
theorem Ends.and {action : EStateM ε σ α} {ok' : α → σ → Prop} {bad' : ε → σ → Prop}
    (h : Ends action s ok bad) (h' : Ends action s ok' bad') :
    Ends action s (fun a s' => ok a s' ∧ ok' a s') (fun e s' => bad e s' ∧ bad' e s') := by
  unfold Ends at h h' ⊢
  cases hrun : action.run s with
  | ok a s' =>
    rw [hrun] at h h'
    exact ⟨h, h'⟩
  | error e s' =>
    rw [hrun] at h h'
    exact ⟨h, h'⟩

/-- What is known of a success holds of a run that succeeded. Laws about all ends
are turned into facts about one run by this lemma and the next one. -/
theorem Ends.ok_of_run {action : EStateM ε σ α} {a : α} {s' : σ} (h : Ends action s ok bad)
    (hrun : action.run s = .ok a s') : ok a s' := by
  rw [Ends, hrun] at h
  exact h

/-- What is known of a failure holds of a run that failed, and of the state that it
left. -/
theorem Ends.error_of_run {action : EStateM ε σ α} {e : ε} {s' : σ} (h : Ends action s ok bad)
    (hrun : action.run s = .error e s') : bad e s' := by
  rw [Ends, hrun] at h
  exact h

/-- An action fails with an error if it has no other end. The state that it leaves
is not asked for, which is why the right side can be computed without knowing it. -/
theorem exists_run_eq_error_iff {action : EStateM ε σ α} {e : ε} :
    (∃ s', action.run s = .error e s') ↔ Ends action s (fun _ _ => False) (fun e' _ => e' = e) := by
  unfold Ends
  split
  · next heq => simp [heq]
  · next heq => simp [heq]

/-- How an action ends can be found out by running it, if its two conditions can be
decided. Closed instances of a law are checked in this way. -/
instance (action : EStateM ε σ α) [∀ a s', Decidable (ok a s')] [∀ e s', Decidable (bad e s')] :
    Decidable (Ends action s ok bad) :=
  match h : action.run s with
  | .ok a s' => decidable_of_iff (ok a s') (by rw [Ends, h])
  | .error e s' => decidable_of_iff (bad e s') (by rw [Ends, h])

/-- A run ends in what it comes to. Where nothing else is known of an action, this
names the result of its run for the rest of an argument. -/
theorem ends_run (action : EStateM ε σ α) (s : σ) :
    Ends action s (fun a s' => action.run s = .ok a s') (fun e s' => action.run s = .error e s') := by
  unfold Ends
  split <;> assumption

/-- Giving a value leaves the state as it is, so only the condition of a success is
asked for. -/
@[simp] theorem ends_pure (a : α) : Ends (pure a) s ok bad ↔ ok a s := Iff.rfl

/-- A failure leaves the state as it is, and only the condition of a failure is
asked for. -/
@[simp] theorem ends_throw (e : ε) : Ends (throw e) s ok bad ↔ bad e s := Iff.rfl

/-- Reading the state gives it and leaves it. This and the laws below are
computation rules, by which an action that is written out is followed step by step. -/
@[simp] theorem ends_get {ok : σ → σ → Prop} : Ends get s ok bad ↔ ok s s := Iff.rfl

/-- Whatever the state was, the new one takes its place, and nothing is given but
that it does. -/
@[simp] theorem ends_set {ok : PUnit → σ → Prop} (s' : σ) : Ends (set s') s ok bad ↔ ok () s' :=
  Iff.rfl

/-- A change of the state cannot fail, and is made to the state that is there. -/
@[simp] theorem ends_modify {ok : Unit → σ → Prop} (f : σ → σ) :
    Ends (modify f) s ok bad ↔ ok () (f s) := Iff.rfl

/-- The second action starts where the first one succeeded. A failure of the first
one is a failure of both, which is why the condition for failures is the same on
both sides. -/
@[simp] theorem ends_bind {ok : β → σ → Prop} (action : EStateM ε σ α) (next : α → EStateM ε σ β) :
    Ends (action >>= next) s ok bad ↔ Ends action s (fun a s' => Ends (next a) s' ok bad) bad := by
  simp only [Ends, EStateM.run_bind]
  cases action.run s <;> rfl

/-- One action after another: the second one starts from what the first one ends in,
and both may fail in the same way. -/
theorem Ends.bind {action : EStateM ε σ α} {next : α → EStateM ε σ β} {ok' : β → σ → Prop}
    (h : Ends action s ok bad) (hnext : ∀ a s', ok a s' → Ends (next a) s' ok' bad) :
    Ends (action >>= next) s ok' bad := by
  rw [ends_bind]
  exact h.mono hnext (fun _ _ hbad => hbad)

/-- Where the first action cannot fail, it does not matter how the second one may.
The condition for failures is then that of the second action alone. -/
theorem Ends.bind_of_ok {action : EStateM ε σ α} {next : α → EStateM ε σ β} {ok' : β → σ → Prop}
    {bad' : ε → σ → Prop} (h : Ends action s ok (fun _ _ => False))
    (hnext : ∀ a s', ok a s' → Ends (next a) s' ok' bad') : Ends (action >>= next) s ok' bad' := by
  rw [ends_bind]
  exact h.mono hnext (fun _ _ hfalse => hfalse.elim)

/-- What is made of the value does not touch the state, nor the way in which the
action may fail. -/
@[simp] theorem ends_map {ok : β → σ → Prop} (f : α → β) (action : EStateM ε σ α) :
    Ends (f <$> action) s ok bad ↔ Ends action s (fun a s' => ok (f a) s') bad := by
  simp only [Ends, run_map]
  cases action.run s <;> rfl

/-- A condition that holds lets an action go on, and one that does not makes it fail
with the error named beside it. The state is the same in both cases. -/
@[simp] theorem ends_ensure {ok : Unit → σ → Prop} (condition : Prop) [Decidable condition]
    (e : ε) : Ends (ensure condition e) s ok bad ↔ if condition then ok () s else bad e s := by
  by_cases h : condition <;> simp [Ends, h]

/-- An outcome that is known beforehand ends as it says, in the state that is there.
So a pure check inside an action is followed by its two cases. -/
@[simp] theorem ends_ofExcept (outcome : Except ε α) :
    Ends (ofExcept outcome) s ok bad
      ↔ match outcome with
        | .ok a => ok a s
        | .error e => bad e s := by
  cases outcome <;> rfl

/-- Wording an error anew leaves the state of the failure, and does nothing to a
success. -/
@[simp] theorem ends_adaptExcept {bad : ε' → σ → Prop} (f : ε → ε') (action : EStateM ε σ α) :
    Ends (action.adaptExcept f) s ok bad ↔ Ends action s ok (fun e s' => bad (f e) s') := by
  simp only [Ends, EStateM.run_adaptExcept]
  cases action.run s <;> rfl

/-- An action on a part of the state ends as the part allows, and the part that it
leaves is put back into the whole on success and failure alike. -/
@[simp] theorem ends_focus {ok : α → ρ → Prop} {bad : ε → ρ → Prop} {r : ρ} (part : ρ → σ)
    (replace : σ → ρ → ρ) (action : EStateM ε σ α) :
    Ends (focus part replace action) r ok bad
      ↔ Ends action (part r) (fun a s' => ok a (replace s' r))
          (fun e s' => bad e (replace s' r)) := by
  simp only [Ends, run_focus]
  cases action.run (part r) <;> rfl

/-- An action whose failures are turned into values has one end only. What is asked
of either end of the action is asked of the value that tells of it. -/
@[simp] theorem ends_outcome {bad : ε' → σ → Prop} {ok : Except ε α → σ → Prop}
    (action : EStateM ε σ α) :
    Ends (outcome action : EStateM ε' σ (Except ε α)) s ok bad
      ↔ Ends action s (fun a s' => ok (.ok a) s') (fun e s' => ok (.error e) s') := by
  simp only [Ends, run_outcome]
  cases action.run s <;> rfl

/-- The handler starts where the action failed, with whatever the action had changed
by then. A success passes the handler by. -/
@[simp] theorem ends_tryCatch (action : EStateM ε σ α) (handler : ε → EStateM ε σ α) :
    Ends (tryCatch action handler) s ok bad
      ↔ Ends action s ok (fun e s' => Ends (handler e) s' ok bad) := by
  simp only [Ends, run_tryCatch]
  cases action.run s <;> rfl

/-- Actions in a row succeed if each of them does. From the success of a long action
this gets the value and the state behind every step, one after the other. -/
theorem run_bind_eq_ok_iff {action : EStateM ε σ α} {next : α → EStateM ε σ β} {b : β} {s' : σ} :
    (action >>= next).run s = .ok b s'
      ↔ ∃ a s₁, action.run s = .ok a s₁ ∧ (next a).run s₁ = .ok b s' := by
  rw [EStateM.run_bind]
  constructor
  · intro h
    cases hrun : action.run s with
    | ok a s₁ =>
      rw [hrun] at h
      exact ⟨a, s₁, rfl, h⟩
    | error e s₁ =>
      rw [hrun] at h
      cases h
  · rintro ⟨a, s₁, hrun, h⟩
    rw [hrun]
    exact h

/-- What an action leaves true if it was true before, whether it succeeds or fails.
An invariant of a loop or of a whole session is of this kind, since either may be
broken off. -/
def Maintains (invariant : σ → Prop) (action : EStateM ε σ α) : Prop :=
  ∀ s, invariant s → Ends action s (fun _ s' => invariant s') (fun _ s' => invariant s')

variable {I : σ → Prop}

/-- Giving a value keeps whatever holds. It stands at the end of most actions, so
most proofs by steps end with it. -/
theorem maintains_pure (a : α) : Maintains I (pure a : EStateM ε σ α) := by
  intro s hs
  exact hs

/-- A failure that touches nothing keeps whatever holds, for an invariant is asked
of the states after failures too. -/
theorem maintains_throw (e : ε) : Maintains I (throw e : EStateM ε σ α) := by
  intro s hs
  exact hs

/-- Looking at the state keeps whatever holds, and what was seen may decide what is
done next. -/
theorem maintains_get : Maintains I (get : EStateM ε σ σ) := by
  intro s hs
  exact hs

/-- A change keeps an invariant if it does so as a function on states. There is no
other step at which an invariant could be lost. -/
theorem maintains_modify {f : σ → σ} (h : ∀ s, I s → I (f s)) :
    Maintains I (modify f : EStateM ε σ PUnit) := h

/-- A check keeps whatever holds, passed or not. What it has checked is not recorded
by this; where that matters the action is followed by its laws. -/
theorem maintains_ensure (condition : Prop) [Decidable condition] (e : ε) :
    Maintains I (ensure condition e) := by
  intro s hs
  rw [ends_ensure]
  split <;> exact hs

/-- A fact that is not about the state stays as it is. With `True` for the fact this
says that an action ends at all, which is what an argument starts from if it does
not care how. -/
theorem maintains_const (fact : Prop) (action : EStateM ε σ α) :
    Maintains (fun _ => fact) action := by
  intro s hs
  unfold Ends
  split <;> exact hs

namespace Maintains

/-- Two invariants of one action hold together, so a conjunction can be shown part
by part. -/
theorem and {J : σ → Prop} {action : EStateM ε σ α} (h : Maintains I action)
    (h' : Maintains J action) : Maintains (fun s => I s ∧ J s) action := by
  intro s hs
  obtain ⟨hI, hJ⟩ := hs
  exact (h s hI).and (h' s hJ)

/-- One action after another keeps what each of them keeps. The second one need not
be looked at state by state: the invariant is all that it may rely on. -/
theorem bind {action : EStateM ε σ α} {next : α → EStateM ε σ β} (h : Maintains I action)
    (hnext : ∀ a, Maintains I (next a)) : Maintains I (action >>= next) := by
  intro s hs
  exact (h s hs).bind hnext

/-- What is made of the value is nothing to an invariant, which is about states
alone. -/
theorem map {action : EStateM ε σ α} (h : Maintains I action) (f : α → β) :
    Maintains I (f <$> action) := by
  intro s hs
  rw [ends_map]
  exact h s hs

/-- An invariant is about states, so the wording of a failure does not matter to it
either. -/
theorem adaptExcept {action : EStateM ε σ α} (h : Maintains I action) (f : ε → ε') :
    Maintains I (action.adaptExcept f) := by
  intro s hs
  rw [ends_adaptExcept]
  exact h s hs

/-- An outcome that is known beforehand changes nothing, be it a value or a failure. -/
theorem ofExcept (outcome : Except ε α) :
    Maintains I (Action.ofExcept outcome : EStateM ε σ α) := by
  cases outcome with
  | ok a => exact maintains_pure a
  | error e => exact maintains_throw e

/-- A failure that is dealt with keeps what the action and every handler keep. The
handler begins in the state that the failure left, of which the invariant is known. -/
theorem tryCatch {action : EStateM ε σ α} {handler : ε → EStateM ε σ α} (h : Maintains I action)
    (hhandler : ∀ e, Maintains I (handler e)) :
    Maintains I (MonadExcept.tryCatch action handler) := by
  intro s hs
  rw [ends_tryCatch]
  refine (h s hs).mono (fun _ _ hs' => hs') ?_
  -- The handler finds what the failure left, where the invariant still holds.
  intro e s' hs'
  exact hhandler e s' hs'

/-- Turning failures into values keeps what held at the failures. Here it is of use
that an invariant holds there too. -/
theorem outcome {action : EStateM ε σ α} (h : Maintains I action) :
    Maintains I (Action.outcome action : EStateM ε' σ (Except ε α)) := by
  intro s hs
  rw [ends_outcome]
  exact h s hs

/-- What an action on a part keeps true of the whole around it, it keeps true there
as well. -/
theorem focus {J : ρ → Prop} {part : ρ → σ} {replace : σ → ρ → ρ} {action : EStateM ε σ α}
    (hreplace : ∀ r, replace (part r) r = r)
    (h : ∀ r, Maintains (fun s => J (replace s r)) action) :
    Maintains J (Action.focus part replace action) := by
  intro r hr
  rw [ends_focus]
  -- The invariant of the part is that the whole, with the part put back, is as `J` says.
  apply h r (part r)
  show J (replace (part r) r)
  rwa [hreplace]

end Maintains

/-- From any state, the action succeeds or fails with an error of this kind. Nothing
is said of the states, so the laws of this form need no invariant. -/
def FailsOnly (kind : ε → Prop) (action : EStateM ε σ α) : Prop :=
  ∀ s, Ends action s (fun _ _ => True) (fun e _ => kind e)

variable {kind : ε → Prop}

/-- Giving a value never fails, so its failures are of every kind. -/
theorem failsOnly_pure (a : α) : FailsOnly kind (pure a : EStateM ε σ α) := by
  intro s
  trivial

/-- Looking at the state never fails. The kind is arbitrary for the same reason. -/
theorem failsOnly_get : FailsOnly kind (get : EStateM ε σ σ) := by
  intro s
  trivial

/-- Changing the state never fails, which makes it safe behind the last step that
may. -/
theorem failsOnly_modify (f : σ → σ) : FailsOnly kind (modify f : EStateM ε σ PUnit) := by
  intro s
  trivial

/-- A failure is of the kind that its error is of. This is the one place where the
kind is looked at. -/
theorem failsOnly_throw {e : ε} (h : kind e) : FailsOnly kind (throw e : EStateM ε σ α) := by
  intro s
  exact h

/-- A check fails with the error named beside it, and with no other, so it is enough
to know the kind of that one. -/
theorem failsOnly_ensure (condition : Prop) [Decidable condition] {e : ε} (h : kind e) :
    FailsOnly kind (ensure condition e : EStateM ε σ Unit) := by
  intro s
  rw [ends_ensure]
  split
  · trivial
  · exact h

/-- The wording of an error decides its kind, whatever failed underneath. This is
why a channel can say what kinds of errors it has without a word on its transport. -/
theorem failsOnly_adaptExcept {kind : ε' → Prop} {f : ε → ε'} (h : ∀ e, kind (f e))
    (action : EStateM ε σ α) : FailsOnly kind (action.adaptExcept f) := by
  intro s
  rw [ends_adaptExcept]
  -- Nothing is known of how the action ends, and nothing has to be.
  refine (maintains_const True action s trivial).mono (fun _ _ _ => trivial) ?_
  intro e s' _
  exact h e

namespace FailsOnly

/-- Actions in a row fail as any one of them may, whatever value the second is
given. -/
theorem bind {action : EStateM ε σ α} {next : α → EStateM ε σ β} (h : FailsOnly kind action)
    (hnext : ∀ a, FailsOnly kind (next a)) : FailsOnly kind (action >>= next) := by
  intro s
  refine (h s).bind ?_
  intro a s' _
  exact hnext a s'

/-- An action on a part fails as it does by itself: the rest of the state is put
back around it either way. -/
theorem focus {part : ρ → σ} {replace : σ → ρ → ρ} {action : EStateM ε σ α}
    (h : FailsOnly kind action) : FailsOnly kind (Action.focus part replace action) := by
  intro r
  rw [ends_focus]
  exact h (part r)

end FailsOnly

/-- What is true where the action fails if it was true before; a success may have
changed it. For an action that changes the state last, this is the strongest that
can be said. -/
def FailsKeeping (invariant : σ → Prop) (action : EStateM ε σ α) : Prop :=
  ∀ s, invariant s → Ends action s (fun _ _ => True) (fun _ s' => invariant s')

/-- What holds at both ends holds at the failures. So an action that keeps an
invariant is one that keeps it where it fails. -/
theorem Maintains.failsKeeping {action : EStateM ε σ α} (h : Maintains I action) :
    FailsKeeping I action := by
  intro s hs
  exact (h s hs).mono (fun _ _ _ => trivial) (fun _ _ hs' => hs')

/-- An action that does not fail may do whatever it likes. The changes that come
last in a long action are of this form. -/
theorem FailsOnly.failsKeeping {action : EStateM ε σ α} (h : FailsOnly (fun _ => False) action) :
    FailsKeeping I action := by
  intro s _
  refine (h s).mono (fun _ _ _ => trivial) ?_
  intro e s' hfalse
  exact hfalse.elim

/-- Up to the last step that may fail, every step has to keep what is to be true
then. -/
theorem Maintains.bind_failsKeeping {action : EStateM ε σ α} {next : α → EStateM ε σ β}
    (h : Maintains I action) (hnext : ∀ a, FailsKeeping I (next a)) :
    FailsKeeping I (action >>= next) := by
  intro s hs
  exact (h s hs).bind hnext

/-- A run that failed has left true what was true before it. This is how a law about
failures is used of a single run. -/
theorem FailsKeeping.error_of_run {action : EStateM ε σ α} {e : ε} {s' : σ}
    (h : FailsKeeping I action) (hs : I s) (hrun : action.run s = .error e s') : I s' :=
  (h s hs).error_of_run hrun

/-- What an action keeps true as long as it succeeds, and what is left of it where
it fails. -/
def Sustains (good bad : σ → Prop) (action : EStateM ε σ α) : Prop :=
  ∀ s, good s → Ends action s (fun _ s' => good s') (fun _ s' => bad s')

namespace Sustains

variable {good bad : σ → Prop}

/-- An invariant that is good enough for a failure is sustained by whatever keeps
it. -/
theorem of_maintains {action : EStateM ε σ α} (h : Maintains good action)
    (hbad : ∀ s, good s → bad s) : Sustains good bad action := by
  intro s hs
  refine (h s hs).mono (fun _ _ hs' => hs') ?_
  intro e s' hs'
  exact hbad s' hs'

/-- Actions in a row sustain what each of them sustains. It is the success of the
first one that the second one starts from, so what is left of a failure is never
built upon. -/
theorem bind {action : EStateM ε σ α} {next : α → EStateM ε σ β} (h : Sustains good bad action)
    (hnext : ∀ a, Sustains good bad (next a)) : Sustains good bad (action >>= next) := by
  intro s hs
  exact (h s hs).bind hnext

end Sustains

/-- From related states both actions come to the same, and they leave related
states. The second action is the model: the first one does nothing that the model
does not do, and fails where it fails, with the same error. -/
def Simulates (related : σ → ρ → Prop) (action : EStateM ε σ α) (model : EStateM ε ρ α) : Prop :=
  ∀ s r, related s r →
    Ends action s (fun a s' => ∃ r', model.run r = .ok a r' ∧ related s' r')
      (fun e s' => ∃ r', model.run r = .error e r' ∧ related s' r')

/-- What an action comes to when it is done so many times, whatever it comes to each
time, and the state after the last time. -/
def repeated (action : EStateM ε σ α) : (times : Nat) → σ → List (Except ε α) × σ
  | 0, s => ([], s)
  | times + 1, s =>
    match action.run s with
    | .ok a s' => (.ok a :: (repeated action times s').1, (repeated action times s').2)
    | .error e s' => (.error e :: (repeated action times s').1, (repeated action times s').2)

/-- A simulation goes on for as long as both actions are repeated. The results agree
one by one, failures included, so that a failed round does not end the comparison. -/
theorem Simulates.repeated {related : σ → ρ → Prop} {action : EStateM ε σ α}
    {model : EStateM ε ρ α} (h : Simulates related action model) (times : Nat) {s : σ} {r : ρ}
    (hs : related s r) :
    (repeated action times s).1 = (repeated model times r).1
      ∧ related (repeated action times s).2 (repeated model times r).2 := by
  -- The states change from one time to the next, so this is about all that are related.
  induction times generalizing s r with
  | zero => exact ⟨rfl, hs⟩
  | succ times ih =>
    have hend := h s r hs
    cases hrun : action.run s with
    -- A round that succeeds and one that fails are alike here: either way both go on
    -- from related states.
    | ok a s' =>
      rw [Ends, hrun] at hend
      obtain ⟨r', hmodel, hs'⟩ := hend
      obtain ⟨hresults, hlast⟩ := ih hs'
      rw [Action.repeated, Action.repeated, hrun, hmodel]
      exact ⟨congrArg _ hresults, hlast⟩
    | error e s' =>
      rw [Ends, hrun] at hend
      obtain ⟨r', hmodel, hs'⟩ := hend
      obtain ⟨hresults, hlast⟩ := ih hs'
      rw [Action.repeated, Action.repeated, hrun, hmodel]
      exact ⟨congrArg _ hresults, hlast⟩

end SqlWire.Action
