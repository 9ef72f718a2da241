import Mathlib.MeasureTheory.Integral.ExpDecay
import PoissonFactor.Proofs.Model.Columns
import PoissonFactor.Proofs.Model.LogGamma
import PoissonFactor.Proofs.Model.Positivity

/-!
# A held-out rating is never certain

Under the rate of its pair a held-out rating has a likelihood: as a hit or a miss, the
two chances of a Poisson count to be above zero or zero; as a count, the weight
`rate ^ v * exp (-rate) / Gamma (v + 1)`. A chance of something that need not happen lies
below one. For counts that are no integers there is no chance to appeal to, and the
bound is one on the gamma function:

> `rpow_mul_exp_neg_lt_Gamma`: a power against an exponential stays below the integral
> of their product, because the part of the integral behind the point alone outweighs
> it.

So every log-likelihood is below zero (`Rows.logLikelihood_hits_neg`,
`Rows.logLikelihood_count_neg`), and the mean of any number of them too:

> `Rows.averageLogLikelihood_neg`: in a state with positive shapes and rates the average
> log-likelihood of held-out ratings is below zero.
-/

namespace PoissonFactor

open MeasureTheory Set

/-- A power against an exponential stays below the gamma function. -/
theorem rpow_mul_exp_neg_lt_Gamma {r v : ℝ} (hr : 0 < r) (hv : 0 ≤ v) :
    r ^ v * Real.exp (-r) < Real.Gamma (v + 1) := by
  have hint : IntegrableOn (fun x => Real.exp (-x) * x ^ v) (Ioi 0) := by
    have h := Real.GammaIntegral_convergent (s := v + 1) (by linarith)
    rwa [add_sub_cancel_right] at h
  have hgamma : Real.Gamma (v + 1) = ∫ x in Ioi 0, Real.exp (-x) * x ^ v := by
    rw [Real.Gamma_eq_integral (by linarith), add_sub_cancel_right]
  have hfront : IntegrableOn (fun x => Real.exp (-x) * x ^ v) (Ioc 0 r) :=
    hint.mono_set Ioc_subset_Ioi_self
  have hback := hint.mono_set (Ioi_subset_Ioi hr.le)
  have hsplit : ∫ x in Ioi 0, Real.exp (-x) * x ^ v
      = (∫ x in Ioc 0 r, Real.exp (-x) * x ^ v) + ∫ x in Ioi r, Real.exp (-x) * x ^ v := by
    rw [← setIntegral_union (Ioc_disjoint_Ioi le_rfl) measurableSet_Ioi hfront hback,
      Ioc_union_Ioi_eq_Ioi hr.le]
  have hpos : 0 < ∫ x in Ioc 0 r, Real.exp (-x) * x ^ v := by
    rw [← intervalIntegral.integral_of_le hr.le]
    refine intervalIntegral.intervalIntegral_pos_of_pos_on ?_ (fun x hx => ?_) hr
    · exact (intervalIntegrable_iff_integrableOn_Ioc_of_le hr.le).mpr hfront
    · exact mul_pos (Real.exp_pos _) (Real.rpow_pos_of_pos hx.1 v)
  -- Behind `r` the power is at least what it is at `r`.
  have hle : r ^ v * Real.exp (-r) ≤ ∫ x in Ioi r, Real.exp (-x) * x ^ v := by
    have hconst : ∫ x in Ioi r, Real.exp (-x) * r ^ v = r ^ v * Real.exp (-r) := by
      rw [integral_mul_const, integral_exp_neg_Ioi, mul_comm]
    rw [← hconst]
    refine setIntegral_mono_on ((integrableOn_exp_neg_Ioi r).mul_const _) hback measurableSet_Ioi
      fun x hx => ?_
    exact mul_le_mul_of_nonneg_left (Real.rpow_le_rpow hr.le (le_of_lt hx) hv) (Real.exp_pos _).le
  rw [hgamma, hsplit]
  linarith

/-- The log-gamma function is what its name says where it is used: at positive numbers. -/
def SpecialFunctions.ExactLogGamma [SpecialFunctions] : Prop :=
  ∀ x : ℝ, 0 < x → SpecialFunctions.logGamma x = Real.log (Real.Gamma x)

theorem SpecialFunctions.exactLogGamma_gamma :
    letI : SpecialFunctions := .gamma
    SpecialFunctions.ExactLogGamma :=
  fun _ _ => rfl

variable [SpecialFunctions] {users items k : Nat}

namespace Rows

variable {rate v : ℝ}

/-! ## Hits and misses -/

/-- A rating of zero is a miss. -/
theorem logLikelihood_miss (rate : ℝ) : logLikelihood true 0 rate = -rate := by
  simp [logLikelihood]

/-- Any other rating is a hit. -/
theorem logLikelihood_hit (hv : v ≠ 0) (rate : ℝ) :
    logLikelihood true v rate = Real.log (1 - Real.exp (-rate)) := by
  simp [logLikelihood, hv]

omit [SpecialFunctions] in
theorem exp_neg_lt_one (hr : 0 < rate) : Real.exp (-rate) < 1 :=
  Real.exp_lt_one_iff.mpr (neg_neg_of_pos hr)

theorem exp_logLikelihood_hit (hr : 0 < rate) (hv : v ≠ 0) :
    Real.exp (logLikelihood true v rate) = 1 - Real.exp (-rate) := by
  rw [logLikelihood_hit hv, Real.exp_log (sub_pos.mpr (exp_neg_lt_one hr))]

/-- A rating is a hit or a miss. -/
theorem exp_logLikelihood_miss_add_hit (hr : 0 < rate) (hv : v ≠ 0) :
    Real.exp (logLikelihood true 0 rate) + Real.exp (logLikelihood true v rate) = 1 := by
  rw [logLikelihood_miss, exp_logLikelihood_hit hr hv, add_sub_cancel]

/-- Neither is certain. -/
theorem logLikelihood_hits_neg (hr : 0 < rate) (v : ℝ) : logLikelihood true v rate < 0 := by
  by_cases hv : v = 0
  · rw [hv, logLikelihood_miss]
    exact neg_neg_of_pos hr
  · have hexp : 0 < Real.exp (-rate) := Real.exp_pos _
    rw [logLikelihood_hit hv]
    exact Real.log_neg (sub_pos.mpr (exp_neg_lt_one hr)) (by linarith)

/-! ## Counts -/

/-- The weight of a count. -/
theorem exp_logLikelihood_count (hgamma : SpecialFunctions.ExactLogGamma) (hr : 0 < rate)
    (hv : 0 ≤ v) :
    Real.exp (logLikelihood false v rate)
      = rate ^ v * Real.exp (-rate) / Real.Gamma (v + 1) := by
  have hpos : 0 < Real.Gamma (v + 1) := Real.Gamma_pos_of_pos (by linarith)
  have hlog : logLikelihood false v rate
      = v * Real.log rate - rate - Real.log (Real.Gamma (v + 1)) := by
    unfold logLikelihood
    rw [if_neg Bool.false_ne_true, Scalar.real_one, ← hgamma (v + 1) (by linarith)]
    rfl
  rw [hlog, Real.exp_sub, sub_eq_add_neg, Real.exp_add, Real.exp_log hpos,
    Real.rpow_def_of_pos hr, mul_comm v]

/-- It lies below one. -/
theorem logLikelihood_count_neg (hgamma : SpecialFunctions.ExactLogGamma) (hr : 0 < rate)
    (hv : 0 ≤ v) : logLikelihood false v rate < 0 := by
  have hpos : 0 < Real.Gamma (v + 1) := Real.Gamma_pos_of_pos (by linarith)
  rw [← Real.exp_lt_one_iff, exp_logLikelihood_count hgamma hr hv, div_lt_one hpos]
  exact rpow_mul_exp_neg_lt_Gamma hr hv

end Rows

/-! ## The average -/

/-- All shapes and rates of a side are above zero. -/
def Factor.MeansPositive {n : Nat} (f : Factor ℝ n k) : Prop :=
  ∀ (i : Fin n) (j : Fin k), 0 < f.shape[i][j] ∧ 0 < f.rate[i][j]

omit [SpecialFunctions] in
theorem Factor.Positive.meansPositive {n : Nat} {f : Factor ℝ n k} (h : f.Positive) :
    f.MeansPositive :=
  fun i j => ⟨h.shape i j, h.rate i j⟩

namespace Rows

variable {p : Problem ℝ users items} {s : State ℝ users items k}

/-- The rate of a pair is a sum of products of means. -/
theorem pairRate_pos_of_means (hk : 1 ≤ k) (husers : s.users.MeansPositive)
    (hitems : s.items.MeansPositive) (u : Fin users) (i : Fin items) : 0 < pairRate s u i := by
  have hmean : ∀ j : Fin k, 0 < s.users.mean u j * s.items.mean i j := fun j =>
    mul_pos (div_pos (husers u j).1 (husers u j).2) (div_pos (hitems i j).1 (hitems i j).2)
  unfold pairRate
  rw [Scalar.real_total]
  exact Finset.sum_pos (fun j _ => hmean j) ⟨⟨0, hk⟩, Finset.mem_univ _⟩

/-- **The average log-likelihood is below zero.** Only where ratings are counts do they have to be
zero or above. -/
theorem averageLogLikelihood_neg (hgamma : SpecialFunctions.ExactLogGamma) (hk : 1 ≤ k)
    (husers : s.users.MeansPositive) (hitems : s.items.MeansPositive) (hheld : p.validation ≠ [])
    (hcounts : p.hits = false → ∀ o ∈ p.validation, 0 ≤ o.value) :
    averageLogLikelihood p s < 0 := by
  have hterm : ∀ o ∈ p.validation,
      logLikelihood p.hits o.value (pairRate s o.user o.item) < 0 := by
    intro o ho
    have hrate := pairRate_pos_of_means hk husers hitems o.user o.item
    cases hhits : p.hits with
    | true => exact logLikelihood_hits_neg hrate o.value
    | false => exact logLikelihood_count_neg hgamma hrate (hcounts hhits o ho)
  have hsum : (p.validation.map fun o =>
      logLikelihood p.hits o.value (pairRate s o.user o.item)).sum < 0 := by
    rw [← neg_pos, List.sum_neg, List.map_map]
    refine List.sum_pos _ ?_ (mt List.map_eq_nil_iff.mp hheld)
    intro x hx
    obtain ⟨o, ho, rfl⟩ := List.mem_map.mp hx
    exact neg_pos.mpr (hterm o ho)
  have hlength : (0 : ℝ) < p.validation.length := by
    exact_mod_cast List.length_pos_iff.mpr hheld
  unfold averageLogLikelihood
  rw [Scalar.real_sum, Scalar.real_ofNat]
  exact div_neg_of_neg_of_pos hsum hlength

end Rows

end PoissonFactor
