import Mathlib.Analysis.Convex.Jensen
import Mathlib.Analysis.Convex.SpecificFunctions.Basic
import PoissonFactor.Proofs.Model.LogGamma
import PoissonFactor.Proofs.Model.PairWeight

/-!
# The evidence bound

The tables of a state are the parameters of gamma distributions, one for every entry of
a row and one for its activity. How well they explain the ratings is measured by a lower
bound on the evidence (`evidence`): what the ratings and the priors are expected to
weigh, and the entropies of all the distributions.

The ratings of a pair enter through the logarithm of a sum over the features. Sharing
them out in fixed proportions bounds that logarithm from below, and turns it into one
term per feature (`sharedEvidence`):

> `sharedEvidence_le`: no proportions exceed the bound.

> `sharedEvidence_responsibility`: the softmax of the log-weights attains it.
-/

namespace PoissonFactor

/-- Proportions never weigh more than the logarithm of the sum, by concavity of the logarithm. -/
theorem sum_share_le {k : Nat} {q l : Fin k → ℝ} (hq : ∀ j, 0 < q j) (hsum : ∑ j, q j = 1) :
    ∑ j, q j * (l j - Real.log (q j)) ≤ Real.log (∑ j, Real.exp (l j)) := by
  have hjensen := strictConcaveOn_log_Ioi.concaveOn.le_map_sum (t := Finset.univ) (w := q)
    (p := fun j => Real.exp (l j) / q j) (fun j _ => (hq j).le) hsum
    fun j _ => div_pos (Real.exp_pos _) (hq j)
  have hlog : ∀ j, Real.log (Real.exp (l j) / q j) = l j - Real.log (q j) := fun j => by
    rw [Real.log_div (Real.exp_pos _).ne' (hq j).ne', Real.log_exp]
  have hweight : ∀ j, q j * (Real.exp (l j) / q j) = Real.exp (l j) := fun j =>
    mul_div_cancel₀ _ (hq j).ne'
  simpa only [smul_eq_mul, hlog, hweight] using hjensen

/-- The special functions are what their names say where they are used: at positive numbers. -/
structure SpecialFunctions.Exact [SpecialFunctions] : Prop where
  logGamma : ∀ x : ℝ, 0 < x → SpecialFunctions.logGamma x = Real.log (Real.Gamma x)
  digamma : ∀ x : ℝ, 0 < x →
    HasDerivAt (fun y => Real.log (Real.Gamma y)) (SpecialFunctions.digamma x) x

theorem SpecialFunctions.exact_gamma :
    letI : SpecialFunctions := .gamma
    SpecialFunctions.Exact :=
  letI : SpecialFunctions := .gamma
  { logGamma := fun _ _ => rfl
    digamma := fun _ hx => hasDerivAt_log_Gamma hx }

variable [SpecialFunctions] {users items n m k : Nat}

/-! ## A gamma distribution -/

/-- The expected logarithm. -/
noncomputable def meanLog (shape rate : ℝ) : ℝ :=
  Scalar.digamma shape - Real.log rate

/-- The entropy. -/
noncomputable def entropy (shape rate : ℝ) : ℝ :=
  shape - Real.log rate + Scalar.logGamma shape + (1 - shape) * Scalar.digamma shape

/-! ## The bound -/

/-- The mean activity of a row. -/
noncomputable def Factor.activityMean (f : Factor ℝ n k) (i : Fin n) : ℝ :=
  f.activityShape[i] / f.activityRate[i]

/-- The expected logarithm of the activity of a row. -/
noncomputable def Factor.activityMeanLog (f : Factor ℝ n k) (i : Fin n) : ℝ :=
  meanLog f.activityShape[i] f.activityRate[i]

/-- What the priors of a side are expected to weigh in a row. The activity of the row is the rate
of the prior of its entries. -/
noncomputable def Factor.priorTerm (prior : SidePrior ℝ) (f : Factor ℝ n k) (i : Fin n) : ℝ :=
  ∑ j : Fin k, (prior.shape * f.activityMeanLog i + (prior.shape - 1) * expectedLog f i j
      - f.activityMean i * f.mean i j)
    + (prior.activityShape - 1) * f.activityMeanLog i
    - prior.activityShape / prior.activityRate * f.activityMean i

/-- The entropies of a row. -/
noncomputable def Factor.entropy (f : Factor ℝ n k) (i : Fin n) : ℝ :=
  ∑ j : Fin k, PoissonFactor.entropy f.shape[i][j] f.rate[i][j]
    + PoissonFactor.entropy f.activityShape[i] f.activityRate[i]

/-- The rates of all pairs together. -/
noncomputable def Factor.overlap (f : Factor ℝ n k) (g : Factor ℝ m k) : ℝ :=
  ∑ u : Fin n, ∑ i : Fin m, ∑ j : Fin k, f.mean u j * g.mean i j

/-- The lower bound on the evidence. -/
noncomputable def evidence (p : Problem ℝ users items) (s : State ℝ users items k) : ℝ :=
  ∑ u : Fin users, ∑ i : Fin items,
      pairWeight p.train u i * Real.log (∑ j : Fin k, Real.exp (logWeight s u i j))
    - s.users.overlap s.items
    + ∑ u : Fin users, s.users.priorTerm p.userPrior u
    + ∑ i : Fin items, s.items.priorTerm p.itemPrior i
    + ∑ u : Fin users, s.users.entropy u
    + ∑ i : Fin items, s.items.entropy i

/-! ## Ratings in fixed proportions -/

/-- The bound when the ratings of every pair are shared out among the features by `φ`. -/
noncomputable def sharedEvidence (p : Problem ℝ users items)
    (φ : Fin users → Fin items → Fin k → ℝ) (s : State ℝ users items k) : ℝ :=
  ∑ u : Fin users, ∑ i : Fin items,
      pairWeight p.train u i * ∑ j : Fin k, φ u i j * (logWeight s u i j - Real.log (φ u i j))
    - s.users.overlap s.items
    + ∑ u : Fin users, s.users.priorTerm p.userPrior u
    + ∑ i : Fin items, s.items.priorTerm p.itemPrior i
    + ∑ u : Fin users, s.users.entropy u
    + ∑ i : Fin items, s.items.entropy i

/-- The shares of the softmax weigh exactly as much. -/
theorem sum_responsibility_mul (hk : 1 ≤ k) (s : State ℝ users items k) (u : Fin users)
    (i : Fin items) :
    ∑ j : Fin k, responsibility s u i j * (logWeight s u i j - Real.log (responsibility s u i j))
      = Real.log (∑ j : Fin k, Real.exp (logWeight s u i j)) := by
  have hpos : 0 < ∑ j : Fin k, Real.exp (logWeight s u i j) :=
    Finset.sum_pos (fun _ _ => Real.exp_pos _) ⟨⟨0, hk⟩, Finset.mem_univ _⟩
  have hlog : ∀ j : Fin k, logWeight s u i j - Real.log (responsibility s u i j)
      = Real.log (∑ j' : Fin k, Real.exp (logWeight s u i j')) := fun j => by
    unfold responsibility
    rw [Real.log_div (Real.exp_pos _).ne' hpos.ne', Real.log_exp, sub_sub_cancel]
  simp only [hlog]
  rw [← Finset.sum_mul, sum_responsibility hk, one_mul]

/-- No proportions exceed the bound. -/
theorem sharedEvidence_le (p : Problem ℝ users items) {φ : Fin users → Fin items → Fin k → ℝ}
    (hφ : ∀ u i j, 0 < φ u i j) (hsum : ∀ u i, ∑ j, φ u i j = 1) (s : State ℝ users items k) :
    sharedEvidence p φ s ≤ evidence p s := by
  unfold sharedEvidence evidence
  gcongr with u _ i _
  · exact pairWeight_nonneg p.train u i
  · exact sum_share_le (hφ u i) (hsum u i)

/-- The softmax of the log-weights attains the bound. -/
theorem sharedEvidence_responsibility (hk : 1 ≤ k) (p : Problem ℝ users items)
    (s : State ℝ users items k) : sharedEvidence p (responsibility s) s = evidence p s := by
  unfold sharedEvidence evidence
  simp only [sum_responsibility_mul hk]

end PoissonFactor
