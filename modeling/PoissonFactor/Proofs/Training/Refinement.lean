import PoissonFactor.Proofs.Model.Coordinate
import PoissonFactor.Proofs.Training.Safety

/-!
# A fit repeats the coordinate update

What a single iteration computes is settled by `Coordinate.performAll_iterationPhases`,
given that it finds the state as an iteration leaves it. Along a fit it always does
(`Trainer.Completes.ready`). Main result:

> `Trainer.fit_repeats_update`: a fit begins at the drawn start and every iteration
> takes one `Coordinate.update`; no iteration that its rule asks for fails to happen,
> and what a finished fit leaves is what its last iteration left.
-/

namespace PoissonFactor

namespace Trainer

section

variable [SpecialFunctions] {t : Trainer ℝ} {within : ℝ → Number → Except Failure Bool}
  {draw : Nat → ℝ} {c n : Nat} {p q : Progress t.Parameters ℝ}

/-- An iteration that finds the state ready takes one update. -/
theorem iterated_state_of_ready (hbegun : p.begun = n)
    (h : Coordinate.Ready t.problem n p.state) :
    ((t.loop .rows within).iterated p).state = Coordinate.update t.problem p.state := by
  rw [Loop.iterated_state, nextState_loop, hbegun]
  exact Coordinate.performAll_iterationPhases t.problem h

/-- Every iteration finds the state ready: the first as it was drawn, all others as the iteration
before them left it. -/
theorem Completes.ready (h : t.Completes .rows within draw c n q) :
    Coordinate.Ready t.problem n q.state := by
  induction n generalizing q with
  | zero =>
    rw [h.state]
    exact Coordinate.ready_start t.problem draw
  | succ n ih =>
    obtain ⟨p, hp, -, rfl⟩ := completes_succ_iff.mp h
    rw [iterated_state_of_ready hp.begun (ih hp)]
    exact Coordinate.ready_update t.problem (n + 1) p.state

/-- The state behind `n` iterations is the `n`-fold update of the drawn start. -/
theorem Completes.state_eq_iterate (h : t.Completes .rows within draw c n q) :
    q.state = (Coordinate.update t.problem)^[n] (.start t.problem draw t.features) := by
  induction n generalizing q with
  | zero => exact h.state
  | succ n ih =>
    obtain ⟨p, hp, -, rfl⟩ := completes_succ_iff.mp h
    rw [iterated_state_of_ready hp.begun hp.ready, ih hp, Function.iterate_succ_apply']

/-- A start that passed its check is positive, and so is every state after it. -/
theorem Completes.positive (hp : t.problem.Proper) (h : t.Completes .rows within draw c n q) :
    q.state.Positive := by
  have hstart : (State.start t.problem draw t.features).Positive := by
    obtain ⟨s, hs, -⟩ := h
    obtain ⟨rfl, hcheck⟩ := (start?_eq_ok_iff t draw s).mp hs
    refine State.positive_of_check hcheck (fun u j => ?_) fun i j => ?_
    · rw [(Coordinate.ready_start t.problem draw).users, Table.getElem_constant]
      exact hp.userPrior.shape
    · rw [(Coordinate.ready_start t.problem draw).items, Table.getElem_constant]
      exact hp.itemPrior.shape
  rw [h.state]
  exact State.performAll_positive hp _ hstart

/-- Over the reals nothing but the rule stands in the way of an iteration. -/
theorem Completes.goesOn (hp : t.problem.Proper) (h : t.Completes .rows within draw c n p)
    (ha : t.rule.stops within n p.change = .ok false) : (t.loop .rows within).GoesOn p where
  asked := by
    rw [h.begun]
    exact ha
  checked := check_advance hp within (h.positive hp) _
  finite _ := rfl

/-- A proper trainer whose rule asks for an iteration completes one. -/
theorem completes_one (hp : t.problem.Proper) (within : ℝ → Number → Except Failure Bool)
    (hdraw : ∀ i, 0 ≤ draw i) (ha : ∀ change, t.rule.stops within 0 change = .ok false) (c : Nat) :
    ∃ q, t.Completes .rows within draw c 1 q := by
  have hbegin : t.Completes .rows within draw c 0 (Loop.begin _ c) :=
    completes_zero_iff.mpr ⟨_, start?_of_proper hp hdraw, rfl⟩
  exact ⟨_, completes_succ_iff.mpr ⟨_, hbegin, hbegin.goesOn hp (ha _), rfl⟩⟩

/-- **A fit repeats the coordinate update.** It begins at the drawn start, if that passes its
check. An iteration takes the state that the iterations before it left to its update, so `n` of
them take the start to its `n`-fold update. An iteration takes place whenever the rule says to go
on: no check and no evaluation comes in between. What a finished fit leaves is the progress behind
its last iteration. -/
theorem fit_repeats_update (t : Trainer ℝ) (hp : t.problem.Proper)
    (within : ℝ → Number → Except Failure Bool) (draw : Nat → ℝ) (c : Nat) :
    (∀ q, t.Completes .rows within draw c 0 q ↔ ∃ s, t.start? draw = .ok s ∧ q = Loop.begin s c)
      ∧ (∀ n q, t.Completes .rows within draw c (n + 1) q →
          ∃ p, t.Completes .rows within draw c n p
            ∧ q.state = Coordinate.update t.problem p.state)
      ∧ (∀ n q, t.Completes .rows within draw c n q →
          q.state = (Coordinate.update t.problem)^[n] (.start t.problem draw t.features))
      ∧ (∀ n p, t.Completes .rows within draw c n p →
          t.rule.stops within n p.change = .ok false →
          ∃ q, t.Completes .rows within draw c (n + 1) q
            ∧ q.state = Coordinate.update t.problem p.state)
      ∧ ∀ q, t.fitFrom .rows within draw c = .ok (q, .finished) →
          t.Completes .rows within draw c q.begun q := by
  refine ⟨fun q => completes_zero_iff, ?_, fun n q => Completes.state_eq_iterate, ?_,
    fun q => completes_of_finished⟩
  · intro n q h
    obtain ⟨p, hdone, -, rfl⟩ := completes_succ_iff.mp h
    exact ⟨p, hdone, iterated_state_of_ready hdone.begun hdone.ready⟩
  · intro n p hdone ha
    exact ⟨_, completes_succ_iff.mpr ⟨p, hdone, hdone.goesOn hp ha, rfl⟩,
      iterated_state_of_ready hdone.begun hdone.ready⟩

end

theorem fit_repeats_update_sample :
    letI : SpecialFunctions := .gamma
    sample.problem.Proper
      ∧ ∃ p q, sample.Completes .rows (fun _ _ => .ok false) (fun _ => 1 / 2) 0 0 p
        ∧ sample.Completes .rows (fun _ _ => .ok false) (fun _ => 1 / 2) 0 1 q
        ∧ q.state = Coordinate.update sample.problem p.state := by
  let _ : SpecialFunctions := .gamma
  have h := fit_repeats_update sample sample_proper (fun _ _ => .ok false) (fun _ => 1 / 2) 0
  have hdraw : ∀ i, 0 ≤ (fun _ : Nat => (1 / 2 : ℝ)) i := fun _ => by norm_num
  have hstart := start?_of_proper sample_proper hdraw
  have hbegin := (h.1 _).mpr ⟨_, hstart, rfl⟩
  obtain ⟨q, hq, hstate⟩ := h.2.2.2.1 0 _ hbegin rfl
  exact ⟨sample_proper, _, q, hbegin, hq, hstate⟩

end Trainer

end PoissonFactor
