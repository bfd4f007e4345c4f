import SqlWire.Proofs.Ends
import SqlWire.Session.Results

/-!
# Collecting values

`collect` runs a step round after round until it gives no value. What every round
keeps true, the loop keeps true, whatever its fuel (`maintains_collect`). Where
every round takes one item, the loop takes one for each value and a last one that
closes the run (`ends_collect`). `Yields` lists the values of the rounds and the
states that they pass through; a loop with fuel for all of them gives exactly these
values (`run_collect_of_yields`), and a loop that gives values has gone through such
rounds (`yields_of_run_collect`). Where every round uses something up, as reading
does with the bytes that can still come, fuel beyond that is without effect
(`run_collect_eq_of_le`), and the loop ends with the rounds, whether they give
values to the end or fail (`ends_collect_rounds`).
-/

set_option autoImplicit false

namespace SqlWire

open SqlWire.Action

variable {σ α : Type} {step : EStateM Error σ (Option α)}

/-- What every round keeps true the loop keeps true, whatever its fuel. Running out
of fuel is a failure that touches nothing. -/
theorem maintains_collect {I : σ → Prop} (h : Maintains I step) (fuel : Nat) (done : List α) :
    Maintains I (collect step fuel done) := by
  induction fuel generalizing done with
  | zero => exact maintains_throw _
  | succ fuel ih =>
    apply Maintains.bind h
    intro value
    cases value with
    | none => exact maintains_pure _
    | some a => exact ih (a :: done)

/-- What every round sustains the loop sustains. The loop itself fails only for want
of fuel, where the state is still as a success left it. -/
theorem sustains_collect {good bad : σ → Prop} (h : Sustains good bad step)
    (hbad : ∀ s, good s → bad s) (fuel : Nat) (done : List α) :
    Sustains good bad (collect step fuel done) := by
  induction fuel generalizing done with
  | zero => exact .of_maintains (maintains_throw _) hbad
  | succ fuel ih =>
    apply Sustains.bind h
    intro value
    cases value with
    | none => exact .of_maintains (maintains_pure _) hbad
    | some a => exact ih (a :: done)

/-- A step takes items of a sequence one by one: `position taken s` says how far it
is, and the item for which it gives no value is one that closes the sequence. So far
as its rounds go well, the loop has taken the items of its values and then the one
that closes. -/
theorem ends_collect {ι : Type} (position : List ι → σ → Prop) {closes : ι → Prop}
    {bad : Error → σ → Prop}
    (hstep : ∀ taken s, position taken s →
      Ends step s (fun a s' => ∃ x, position (taken ++ [x]) s' ∧ (closes x ↔ a = none)) bad)
    (hfuel : ∀ taken s, position taken s → bad .timeout s) (fuel : Nat) (done : List α)
    {taken : List ι} {s : σ} (hs : position taken s) :
    Ends (collect step fuel done) s
      (fun as s' => ∃ items last, position (taken ++ (items ++ [last])) s'
        ∧ as.length = done.length + items.length ∧ closes last ∧ ∀ x ∈ items, ¬ closes x) bad := by
  induction fuel generalizing done taken s with
  | zero => exact hfuel taken s hs
  | succ fuel ih =>
    apply Ends.bind (hstep taken s hs)
    rintro a s₁ ⟨x, hx, hcloses⟩
    cases a with
    | none =>
      -- The item that closes the sequence is the first one here, with none in front of it.
      refine ⟨[], x, hx, ?_, hcloses.mpr rfl, List.forall_mem_nil _⟩
      rw [List.length_reverse]
      rfl
    | some a =>
      refine (ih (a :: done) hx).mono ?_ (fun _ _ h => h)
      intro as s₂ h₂
      obtain ⟨items, last, hposition, hlength, hlast, hitems⟩ := h₂
      refine ⟨x :: items, last, ?_, ?_, hlast, ?_⟩
      · rwa [List.append_assoc] at hposition
      · rw [hlength, List.length_cons, List.length_cons]
        omega
      · rintro y hy
        rcases List.mem_cons.mp hy with rfl | hy
        · intro hy
          cases hcloses.mp hy
        · exact hitems y hy

/-- From the first state the step gives these values round after round, and then
none, which leaves the last state. -/
inductive Yields (step : EStateM Error σ (Option α)) : σ → List α → σ → Prop
  | none {s s' : σ} (h : step.run s = .ok none s') : Yields step s [] s'
  | some {s s₁ s' : σ} {a : α} {as : List α} (h : step.run s = .ok (some a) s₁)
      (hrest : Yields step s₁ as s') : Yields step s (a :: as) s'

/-- From the first state the step gives values round after round, and then fails
with an error, which leaves the last state. -/
inductive Fails (step : EStateM Error σ (Option α)) : σ → Error → σ → Prop
  | here {s s' : σ} {e : Error} (h : step.run s = .error e s') : Fails step s e s'
  | later {s s₁ s' : σ} {a : α} {e : Error} (h : step.run s = .ok (some a) s₁)
      (hrest : Fails step s₁ e s') : Fails step s e s'

/-- A loop that has fuel for every round gives the values of the rounds, and for the
one more that gives none. -/
theorem run_collect_of_yields {s s' : σ} {as : List α} (h : Yields step s as s') {fuel : Nat}
    (hfuel : as.length < fuel) (done : List α) :
    (collect step fuel done).run s = .ok (done.reverse ++ as) s' := by
  induction h generalizing fuel done with
  | none h =>
    obtain ⟨fuel, rfl⟩ := Nat.exists_eq_add_one_of_ne_zero (Nat.ne_of_gt hfuel)
    rw [collect, EStateM.run_bind, h, List.append_nil]
    rfl
  | some h hrest ih =>
    obtain ⟨fuel, rfl⟩ := Nat.exists_eq_add_one_of_ne_zero (Nat.ne_of_gt (Nat.zero_lt_of_lt hfuel))
    rw [collect, EStateM.run_bind, h]
    show (collect step fuel _).run _ = _
    rw [ih (Nat.lt_of_succ_lt_succ hfuel), List.reverse_cons, List.append_assoc]
    rfl

/-- A loop that gives values has gone through the rounds that give them. The
induction is on the fuel, since nothing is known of the rounds before they are run. -/
theorem yields_of_run_collect {fuel : Nat} {done as : List α} {s s' : σ}
    (h : (collect step fuel done).run s = .ok as s') :
    ∃ values, as = done.reverse ++ values ∧ values.length < fuel ∧ Yields step s values s' := by
  induction fuel generalizing done s with
  | zero => cases h
  | succ fuel ih =>
    -- The first round has succeeded, and so has whatever came behind it.
    obtain ⟨value, s₁, hstep, hrest⟩ := run_bind_eq_ok_iff.mp h
    cases value with
    | none =>
      cases hrest
      exact ⟨[], (List.append_nil _).symm, Nat.zero_lt_succ _, .none hstep⟩
    | some a =>
      obtain ⟨values, rfl, hlength, hyields⟩ := ih hrest
      refine ⟨a :: values, ?_, Nat.succ_lt_succ hlength, .some hstep hyields⟩
      rw [List.reverse_cons, List.append_assoc]
      rfl

/-- What every round promises of its value, under a condition that it keeps, holds
of all values. -/
theorem Yields.forall_mem {I : σ → Prop} {P : α → Prop}
    (hstep : ∀ s, I s → Ends step s (fun a s' => I s' ∧ ∀ x ∈ a, P x) fun _ _ => True)
    {s s' : σ} {as : List α} (h : Yields step s as s') (hs : I s) : ∀ x ∈ as, P x := by
  induction h with
  | none => exact List.forall_mem_nil _
  | @some s s₁ s' a as h hrest ih =>
    obtain ⟨hs₁, ha⟩ := (hstep s hs).ok_of_run h
    rintro x hx
    rcases List.mem_cons.mp hx with rfl | hx
    · exact ha x rfl
    · exact ih hs₁ x hx

/-! ### Fuel -/

/-- What succeeds uses something up. Nothing is said of failures, which end a loop
anyway. -/
def UsesUp {β : Type} (measure : σ → Nat) (action : EStateM Error σ β) : Prop :=
  ∀ s, Ends action s (fun _ s' => measure s' < measure s) (fun _ _ => True)

variable {measure : σ → Nat}

/-- What comes afterwards need not use up any more, as long as it does not bring
anything back. -/
theorem UsesUp.bind {β γ : Type} {action : EStateM Error σ β} {next : β → EStateM Error σ γ}
    (h : UsesUp measure action)
    (hnext : ∀ b bound, Maintains (fun s => measure s < bound) (next b)) :
    UsesUp measure (action >>= next) := by
  intro s
  rw [ends_bind]
  refine (h s).mono ?_ (fun _ _ _ => trivial)
  intro b s' hs'
  exact (hnext b (measure s) s' hs').mono (fun _ _ h => h) (fun _ _ _ => trivial)

/-- Fuel for more rounds than there can be makes no difference. So a loop that is
bounded by some measure is the same as the one without a bound that it stands for. -/
theorem run_collect_eq_of_le (h : UsesUp measure step) {fuel larger : Nat} {s : σ}
    (hfuel : measure s < fuel) (hle : fuel ≤ larger) (done : List α) :
    (collect step larger done).run s = (collect step fuel done).run s := by
  induction fuel generalizing larger s done with
  -- There is always fuel for a round more than the measure tells.
  | zero => exact absurd hfuel (Nat.not_lt_zero _)
  | succ fuel ih =>
    obtain ⟨larger, rfl⟩ := Nat.exists_eq_add_one_of_ne_zero (by omega : larger ≠ 0)
    rw [collect, collect, EStateM.run_bind, EStateM.run_bind]
    cases hrun : step.run s with
    | error e s' => rfl
    | ok value s' =>
      cases value with
      | none => rfl
      | some a =>
        have hless : measure s' < measure s := (h s).ok_of_run hrun
        exact ih (by omega) (by omega) _

/-- A loop with as much fuel ends as its rounds do, behind the values that it has
collected before. -/
theorem ends_collect_more_rounds (h : UsesUp measure step) {fuel : Nat} {s : σ}
    (hfuel : measure s < fuel) (done : List α) :
    Ends (collect step fuel done) s
      (fun as s' => ∃ values, as = done.reverse ++ values ∧ Yields step s values s')
      (fun e s' => Fails step s e s') := by
  induction fuel generalizing s done with
  | zero => exact absurd hfuel (Nat.not_lt_zero _)
  | succ fuel ih =>
    rw [collect, ends_bind]
    refine ((ends_run step s).and (h s)).mono ?_ (fun e s₁ h₁ => .here h₁.1)
    intro value s₁ h₁
    -- A round that gave something has used some of the measure, so there is fuel for
    -- the rest.
    obtain ⟨hrun, hless⟩ := h₁
    cases value with
    | none => exact ⟨[], (List.append_nil _).symm, .none hrun⟩
    | some a =>
      refine (ih (by omega) (a :: done)).mono ?_ (fun e s' h' => .later hrun h')
      intro as s' h'
      obtain ⟨values, rfl, hyields⟩ := h'
      refine ⟨a :: values, ?_, .some hrun hyields⟩
      rw [List.reverse_cons, List.append_assoc]
      rfl

/-- A loop with as much fuel ends as its rounds do, and not for want of fuel. So the
fuel of the loop can be left out of everything that is said of a session. -/
theorem ends_collect_rounds (h : UsesUp measure step) {fuel : Nat} {s : σ}
    (hfuel : measure s < fuel) :
    Ends (collect step fuel []) s (fun as s' => Yields step s as s')
      (fun e s' => Fails step s e s') := by
  refine (ends_collect_more_rounds h hfuel []).mono ?_ (fun _ _ h => h)
  intro as s' has
  obtain ⟨values, rfl, hyields⟩ := has
  exact hyields

end SqlWire
