import PoissonFactor.Proofs.Model.Ascent
import PoissonFactor.Proofs.Training.Refinement

/-!
# Training climbs the evidence bound

Every iteration of a fit is a coordinate update of a positive state, and such an update
never lowers the evidence bound (`Coordinate.evidence_le_update`). Main result:

> `Trainer.evidence_ascends`: the bound never falls from one iteration to the next, nor
> from the drawn start to what a finished fit leaves.
-/

namespace PoissonFactor

namespace Trainer

section

variable [SpecialFunctions] {t : Trainer ℝ} {within : ℝ → Number → Except Failure Bool}
  {draw : Nat → ℝ} {c n m : Nat} {p q : Progress t.Parameters ℝ}

/-- **One step.** An iteration does not lower the bound. -/
theorem Completes.evidence_le_succ (hexact : SpecialFunctions.Exact) (hp : t.problem.Proper)
    (hk : 1 ≤ t.features) (h : t.Completes .rows within draw c (n + 1) q) :
    ∃ p, t.Completes .rows within draw c n p
      ∧ evidence t.problem p.state ≤ evidence t.problem q.state := by
  obtain ⟨p, hdone, -, rfl⟩ := completes_succ_iff.mp h
  refine ⟨p, hdone, ?_⟩
  rw [iterated_state_of_ready hdone.begun hdone.ready]
  exact Coordinate.evidence_le_update hexact hp hk (hdone.positive hp)

/-- Nor does any number of iterations. -/
theorem Completes.evidence_le (hexact : SpecialFunctions.Exact) (hp : t.problem.Proper)
    (hk : 1 ≤ t.features) (hn : t.Completes .rows within draw c n p)
    (hm : t.Completes .rows within draw c m q) (hnm : n ≤ m) :
    evidence t.problem p.state ≤ evidence t.problem q.state := by
  induction m, hnm using Nat.le_induction generalizing q with
  | base => rw [hn.state, hm.state]
  | succ m _ ih =>
    obtain ⟨p', hp', hle⟩ := hm.evidence_le_succ hexact hp hk
    exact (ih hp').trans hle

/-- **Training climbs.** The bound at the end of an iteration is at least the bound at its start,
and so it is over any stretch of a fit. A finished fit leaves no less than was drawn. -/
theorem evidence_ascends (hexact : SpecialFunctions.Exact) (t : Trainer ℝ) (hp : t.problem.Proper)
    (hk : 1 ≤ t.features) (within : ℝ → Number → Except Failure Bool) (draw : Nat → ℝ) (c : Nat) :
    (∀ n q, t.Completes .rows within draw c (n + 1) q →
        ∃ p, t.Completes .rows within draw c n p
          ∧ evidence t.problem p.state ≤ evidence t.problem q.state)
      ∧ (∀ n m p q, t.Completes .rows within draw c n p → t.Completes .rows within draw c m q →
          n ≤ m → evidence t.problem p.state ≤ evidence t.problem q.state)
      ∧ ∀ q, t.fitFrom .rows within draw c = .ok (q, .finished) →
          evidence t.problem (.start t.problem draw t.features) ≤ evidence t.problem q.state := by
  refine ⟨fun n q h => h.evidence_le_succ hexact hp hk,
    fun n m p q hn hm => hn.evidence_le hexact hp hk hm, ?_⟩
  intro q hfit
  obtain ⟨s, hs, -⟩ := completes_of_finished hfit
  have hbegin : t.Completes .rows within draw c 0 (Loop.begin s c) :=
    completes_zero_iff.mpr ⟨s, hs, rfl⟩
  have hle := hbegin.evidence_le hexact hp hk (completes_of_finished hfit) (Nat.zero_le _)
  rw [hbegin.state] at hle
  exact hle

end

theorem evidence_ascends_sample :
    letI : SpecialFunctions := .gamma
    SpecialFunctions.Exact ∧ sample.problem.Proper ∧ 1 ≤ sample.features
      ∧ ∃ p q, sample.Completes .rows (fun _ _ => .ok false) (fun _ => 1 / 2) 0 0 p
        ∧ sample.Completes .rows (fun _ _ => .ok false) (fun _ => 1 / 2) 0 1 q
        ∧ evidence sample.problem p.state ≤ evidence sample.problem q.state := by
  let _ : SpecialFunctions := .gamma
  have hk : 1 ≤ sample.features := by decide
  have hdraw : ∀ i, 0 ≤ (fun _ : Nat => (1 / 2 : ℝ)) i := fun _ => by norm_num
  obtain ⟨q, hq⟩ := completes_one sample_proper (fun _ _ => .ok false) hdraw (fun _ => rfl) 0
  obtain ⟨p, hp, hle⟩ := (evidence_ascends SpecialFunctions.exact_gamma sample sample_proper hk
    (fun _ _ => .ok false) (fun _ => 1 / 2) 0).1 0 q hq
  exact ⟨SpecialFunctions.exact_gamma, sample_proper, hk, p, q, hp, hq, hle⟩

end Trainer

end PoissonFactor
