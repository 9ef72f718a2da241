import PoissonFactor.Proofs.Model.Likelihood
import PoissonFactor.Proofs.Training.Backends
import PoissonFactor.Proofs.Training.Refinement
import PoissonFactor.Proofs.Training.Stopping

/-!
# The signal that a rule is shown

A rule is shown the change from one evaluation to the next, relative to the earlier
value. That asks for an earlier value that is not zero, and the loop has a branch for
the other case. Over the reals the branch is dead: the first value is measured against
the largest double, and every later one against a log-likelihood, which is below zero.

> `Loop.signal_progressAt`: what the record of a run holds when its values are below
> zero.

The first change is one and the share of a likelihood in the largest double, so it is
above one, and no threshold up to one is met before there is a second evaluation. Main
result:

> `Trainer.likelihood_below_zero`: held-out ratings are never certain, and so a fit
> never divides by zero, nor stops at its first evaluation for a small change.
-/

namespace PoissonFactor

/-! ## Thresholds up to one -/

/-- A number up to one covers nothing above one. -/
theorem Number.Covers.abs_le_one {t : Number} {x : ℝ} (h : t.Covers x)
    (ht : t.le (.int 1) = true) : |x| ≤ 1 := by
  have hle : t.exact.le (.finite ((1 : Int) : ℚ)) = true := ht
  unfold Covers at h
  cases hexact : t.exact with
  | nan => simp [hexact] at h
  | negative => simp [hexact] at h
  | positive => simp [hexact, Extended.le, Extended.lt, Extended.eq] at hle
  | finite r =>
    simp only [hexact] at h
    have hr : r ≤ 1 := by
      simpa [hexact, Extended.le, Extended.lt, Extended.eq, ← le_iff_lt_or_eq] using hle
    exact h.trans (by exact_mod_cast hr)

/-- Below its greatest number of iterations, a rule with a threshold up to one goes on when it is
shown a change above one. -/
theorem StoppingRule.threshold_goes_on {t minimum : Number} {maximum : Option Number} {n : Nat}
    {x : ℝ} (hx : 1 < x) (ht : t.le (.int 1) = true)
    (hmaximum : ∀ m ∈ maximum, m.le (.int n) = false) :
    (threshold t minimum maximum).stops exactWithin n x = .ok false := by
  have hcovers : exactWithin x t = .ok false := by
    rw [exactWithin_eq_false_iff]
    intro h
    exact absurd (h.abs_le_one ht) (not_le.mpr (lt_of_lt_of_le hx (le_abs_self x)))
  unfold stops
  cases maximum with
  | none => simp [hcovers]
  | some m => simp [hmaximum m rfl, hcovers]

/-! ## Changes against a value that is not zero -/

section

variable [SpecialFunctions] {x y : ℝ}

/-- Away from zero the change is relative to the value before. -/
theorem relativeChange_of_ne_zero (hy : y ≠ 0) : relativeChange x y = |(x - y) / y| := by
  simp [relativeChange, hy]

theorem relativeChange_nonneg (x y : ℝ) : 0 ≤ relativeChange x y := by
  unfold relativeChange
  split <;> exact abs_nonneg _

/-- The largest double is positive. -/
theorem largest_pos : (0 : ℝ) < Scalar.largest := by
  show (0 : ℝ) < (2 ^ 53 - 1) * 2 ^ 971
  norm_num

/-- Against the largest double, a value below zero changes by more than all of it. -/
theorem one_lt_relativeChange_largest (hx : x < 0) : 1 < relativeChange x Scalar.largest := by
  have hpos := largest_pos
  have hquotient : (x - Scalar.largest) / Scalar.largest < -1 := by
    rw [div_lt_iff₀ hpos]
    linarith
  rw [relativeChange_of_ne_zero hpos.ne', lt_abs]
  right
  linarith

end

/-! ## The record of a run -/

/-- What is measured against, recorded and shown is in order: the value to measure against is not
zero, so that a change is a quotient; the values recorded are below zero and their changes are
not; and the first of these changes is above one. -/
structure Progress.SignalInOrder [SpecialFunctions] {σ : Type} (p : Progress σ ℝ) : Prop where
  previous : p.previous ≠ 0
  quotient : ∀ current, relativeChange current p.previous = |(current - p.previous) / p.previous|
  likelihood : ∀ e ∈ p.history, e.likelihood < 0
  change : ∀ e ∈ p.history, 0 ≤ e.change
  first : ∀ e ∈ p.history.head?, 1 < e.change
  shown : 0 ≤ p.change
  /-- Up to the second evaluation the change of the first is shown. -/
  held : p.history.length = 1 → 1 < p.change

namespace Loop

variable [SpecialFunctions] {σ : Type} {l : Loop Id σ ℝ} {s : σ} {c n : Nat}

omit [SpecialFunctions] in
/-- There is one evaluation for every multiple of the frequency. -/
theorem length_historyAt {α : Type} [Scalar α] (l : Loop Id σ α) (s : σ) (n : Nat) :
    (l.historyAt s n).length = n / l.frequency := by
  simp [historyAt]

/-- No value is zero when those of the states are below. -/
theorem valueAt_ne_zero {m : Nat} (h : ∀ j < m, l.valueAt s (j + 1) < 0) : l.valueAt s m ≠ 0 := by
  cases m with
  | zero => exact largest_pos.ne'
  | succ m => exact (h m (Nat.lt_succ_self m)).ne

/-- The first value is told against the largest double, so that its change is above one. -/
theorem one_lt_changeOf_one (h : l.valueAt s 1 < 0) : 1 < l.changeOf s 1 :=
  one_lt_relativeChange_largest h

/-- **The signal is in order** when the values of a run are below zero. -/
theorem signal_progressAt (h : ∀ j < n / l.frequency, l.valueAt s (j + 1) < 0) :
    (l.progressAt s c n).SignalInOrder where
  previous := valueAt_ne_zero h
  quotient _ := relativeChange_of_ne_zero (valueAt_ne_zero h)
  likelihood e he := by
    obtain ⟨m, hm, rfl⟩ := List.mem_map.mp he
    exact h m (List.mem_range.mp hm)
  change e he := by
    obtain ⟨m, -, rfl⟩ := List.mem_map.mp he
    exact relativeChange_nonneg _ _
  first e he := by
    -- The history starts with the evaluation that is measured against the largest double.
    have hhead : (l.historyAt s n).head? = some e := he
    cases hcount : n / l.frequency with
    | zero => simp [historyAt, hcount] at hhead
    | succ m =>
      have hfirst : e = l.evaluationAt s 1 := by
        simpa [historyAt, hcount, List.range_succ_eq_map] using hhead.symm
      rw [hfirst]
      exact one_lt_changeOf_one (h 0 (by omega))
  shown := by
    have hone : (0 : ℝ) ≤ Scalar.one := by simp
    show 0 ≤ l.changeAt s n
    unfold changeAt
    split
    · exact hone
    · exact relativeChange_nonneg _ _
  held hone := by
    have hcount : n / l.frequency = 1 := (length_historyAt l s n).symm.trans hone
    have hlt : ¬ n < l.frequency := fun hlt => by simp [Nat.div_eq_of_lt hlt] at hcount
    show 1 < l.changeAt s n
    unfold changeAt
    rw [if_neg hlt, hcount]
    exact one_lt_changeOf_one (h 0 (by omega))

end Loop

/-! ## Fits -/

namespace Rows

/-- No rating is certain under this rate. A hit and a miss are the two chances of a rating, and a
count has the weight of a Poisson count, which is below one for whatever count. -/
structure Uncertain [SpecialFunctions] (rate : ℝ) : Prop where
  hits : ∀ v, logLikelihood true v rate < 0
  chances : ∀ v ≠ 0,
    Real.exp (logLikelihood true 0 rate) + Real.exp (logLikelihood true v rate) = 1
  counts : ∀ v, 0 ≤ v → logLikelihood false v rate < 0
  weight : ∀ v, 0 ≤ v → Real.exp (logLikelihood false v rate)
    = rate ^ v * Real.exp (-rate) / Real.Gamma (v + 1)
  weight_lt_one : ∀ v, 0 ≤ v → rate ^ v * Real.exp (-rate) / Real.Gamma (v + 1) < 1

/-- A positive rate leaves every outcome a chance that is not all of it. -/
theorem uncertain_of_pos [SpecialFunctions] (hgamma : SpecialFunctions.ExactLogGamma) {rate : ℝ}
    (hr : 0 < rate) : Uncertain rate where
  hits := logLikelihood_hits_neg hr
  chances _ := exp_logLikelihood_miss_add_hit hr
  counts _ := logLikelihood_count_neg hgamma hr
  weight _ := exp_logLikelihood_count hgamma hr
  weight_lt_one _ hv := by
    rw [← exp_logLikelihood_count hgamma hr hv, Real.exp_lt_one_iff]
    exact logLikelihood_count_neg hgamma hr hv

end Rows

namespace Trainer

section

variable [SpecialFunctions] {t : Trainer ℝ} {within : ℝ → Number → Except Failure Bool}
  {draw : Nat → ℝ} {c n : Nat} {p : Progress t.Parameters ℝ}

/-- The progress of a fit is the one along the sequences of its loop. -/
theorem Completes.eq_progressAt {b : Backend} (hf : 1 ≤ t.frequency)
    (h : t.Completes b within draw c n p) :
    p = (t.loop b within).progressAt (.start t.problem draw t.features) c n := by
  obtain ⟨s, hs, hsteps⟩ := h
  obtain ⟨rfl, -⟩ := (start?_eq_ok_iff t draw s).mp hs
  rw [(Loop.steps_eq_none_iff.mp hsteps).2, Loop.iterate_begin _ hf]

/-- What a fit has completed, it has completed up to every iteration before. -/
theorem Completes.of_le {b : Backend} {m : Nat} (h : t.Completes b within draw c n p)
    (hm : m ≤ n) : ∃ q, t.Completes b within draw c m q := by
  obtain ⟨s, hs, hsteps⟩ := h
  have hgo := (Loop.steps_eq_none_iff.mp hsteps).1
  exact ⟨_, s, hs, Loop.steps_eq_none_iff.mpr ⟨fun i hi => hgo i (by omega), rfl⟩⟩

/-- The values of a proper fit are below zero. -/
theorem Completes.valueAt_neg (hgamma : SpecialFunctions.ExactLogGamma) (hp : t.problem.Proper)
    (hk : 1 ≤ t.features) (hf : 1 ≤ t.frequency) (hheld : t.problem.validation ≠ [])
    (hcounts : t.problem.hits = false → ∀ o ∈ t.problem.validation, 0 ≤ o.value)
    (h : t.Completes .rows within draw c n p) {j : Nat} (hj : j < n / t.frequency) :
    (t.loop .rows within).valueAt (.start t.problem draw t.features) (j + 1) < 0 := by
  have hle : (j + 1) * t.frequency ≤ n := (Nat.le_div_iff_mul_le hf).mp hj
  obtain ⟨q, hq⟩ := h.of_le hle
  have hpos := hq.positive hp
  rw [hq.eq_progressAt hf] at hpos
  exact Rows.averageLogLikelihood_neg hgamma hk hpos.users.meansPositive hpos.items.meansPositive
    hheld hcounts

/-- **Held-out ratings are never certain.** In a state with positive shapes and rates every pair
has a rate under which no rating is certain, and so the average log-likelihood of held-out ratings,
each of which is a hit or miss or a count from zero on, is below zero. Along a proper fit, however
far it goes, the signal is therefore in order: no change is against zero or below it, the first is
above one, and up to the second evaluation no rule with a threshold up to one says stop for it. -/
theorem likelihood_below_zero (hgamma : SpecialFunctions.ExactLogGamma) (t : Trainer ℝ)
    (hk : 1 ≤ t.features) (hheld : t.problem.validation ≠ []) :
    (∀ s : t.Parameters, s.users.MeansPositive → s.items.MeansPositive →
        (∀ u i, Rows.Uncertain (Rows.pairRate s u i))
          ∧ ((t.problem.hits = false → ∀ o ∈ t.problem.validation, 0 ≤ o.value) →
            ∀ b : Backend, (b.engine t.problem).averageLogLikelihood s < 0))
      ∧ (t.problem.Proper → 1 ≤ t.frequency →
          (t.problem.hits = false → ∀ o ∈ t.problem.validation, 0 ≤ o.value) →
          ∀ (b : Backend) (within : ℝ → Number → Except Failure Bool) (draw : Nat → ℝ) (c n : Nat)
            (p : Progress t.Parameters ℝ), t.Completes b within draw c n p →
            p.SignalInOrder
              ∧ (p.history.length = 1 →
                ∀ (threshold minimum : Number) (maximum : Option Number),
                  threshold.le (.int 1) = true → (∀ m ∈ maximum, m.le (.int n) = false) →
                  (StoppingRule.threshold threshold minimum maximum).stops exactWithin n p.change
                    = .ok false)) := by
  refine ⟨fun s husers hitems => ⟨fun u i => ?_, fun hcounts b => ?_⟩, ?_⟩
  · exact Rows.uncertain_of_pos hgamma (Rows.pairRate_pos_of_means hk husers hitems u i)
  · have hneg := Rows.averageLogLikelihood_neg hgamma hk husers hitems hheld hcounts
    cases b with
    | rows => exact hneg
    | columns =>
      rw [Backend.engine_columns_eq_rows]
      exact hneg
  · intro hp hf hcounts b within draw c n p h
    -- The loop does not depend on the backend, so the positivity known for one is enough.
    have hrows : t.Completes .rows within draw c n p := by
      cases b with
      | rows => exact h
      | columns =>
        unfold Completes at h
        rwa [loop_columns] at h
    have hsignal : p.SignalInOrder := by
      rw [hrows.eq_progressAt hf]
      exact Loop.signal_progressAt fun j hj =>
        hrows.valueAt_neg hgamma hp hk hf hheld hcounts hj
    exact ⟨hsignal, fun hone threshold minimum maximum hle hmaximum =>
      StoppingRule.threshold_goes_on (hsignal.held hone) hle hmaximum⟩

end

/-- The same small trainer, with ratings that are counts. -/
noncomputable def sampleOfCounts : Trainer ℝ :=
  { sample with problem := { sample.problem with hits := false } }

theorem likelihood_below_zero_counts :
    letI : SpecialFunctions := .gamma
    SpecialFunctions.ExactLogGamma ∧ 1 ≤ sampleOfCounts.features
      ∧ sampleOfCounts.problem.validation ≠ [] ∧ sampleOfCounts.problem.Proper
      ∧ (∀ o ∈ sampleOfCounts.problem.validation, 0 ≤ o.value)
      ∧ ∃ p, sampleOfCounts.Completes .columns (fun _ _ => .ok false) (fun _ => 1 / 2) 0 1 p
        ∧ p.SignalInOrder ∧ p.history.length = 1
        ∧ (StoppingRule.threshold (.int 1) (.int 0) none).stops exactWithin 1 p.change
            = .ok false := by
  let _ : SpecialFunctions := .gamma
  have hk : 1 ≤ sampleOfCounts.features := by decide
  have hheld : sampleOfCounts.problem.validation ≠ [] := List.cons_ne_nil _ _
  have hproper : sampleOfCounts.problem.Proper :=
    ⟨sample_proper.userPrior, sample_proper.itemPrior, sample_proper.offsetShape,
      sample_proper.offsetRate⟩
  have hcounts : ∀ o ∈ sampleOfCounts.problem.validation, 0 ≤ o.value := by
    intro o ho
    rw [List.mem_singleton.mp ho]
    norm_num
  have hdraw : ∀ i, 0 ≤ (fun _ : Nat => (1 / 2 : ℝ)) i := fun _ => by norm_num
  obtain ⟨p, hrows⟩ := completes_one hproper (fun _ _ => .ok false) hdraw (fun _ => rfl) 0
  have hdone : sampleOfCounts.Completes .columns (fun _ _ => .ok false) (fun _ => 1 / 2) 0 1 p := by
    unfold Completes
    rw [loop_columns]
    exact hrows
  have hone : p.history.length = 1 := by
    have hfrequency :
        (sampleOfCounts.loop .columns fun _ _ => Except.ok false).frequency = 1 := rfl
    rw [hdone.eq_progressAt (le_refl 1)]
    refine (Loop.length_historyAt _ _ _).trans ?_
    rw [hfrequency]
  obtain ⟨hsignal, hstops⟩ := (likelihood_below_zero SpecialFunctions.exactLogGamma_gamma
    sampleOfCounts hk hheld).2 hproper (le_refl 1) (fun _ => hcounts) .columns _ _ 0 1 p hdone
  refine ⟨SpecialFunctions.exactLogGamma_gamma, hk, hheld, hproper, hcounts, p, hdone, hsignal,
    hone, ?_⟩
  exact hstops hone (.int 1) (.int 0) none (by decide) fun m hm => absurd hm (Option.not_mem_none m)

end Trainer

end PoissonFactor
