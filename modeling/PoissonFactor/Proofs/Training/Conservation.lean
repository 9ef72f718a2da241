import PoissonFactor.Proofs.Model.Mass
import PoissonFactor.Proofs.Training.Fit

/-!
# No fit loses or invents ratings

An iteration counts the ratings once and renews both sides once, so the mass that
`Account.sum_shape` finds in a row behind any sequence of phases is, along a fit, that
of a single count. Main result:

> `Trainer.mass_conserved`: behind any sequence of phases a row holds its prior and
> its ratings as often as they were counted, and behind every iteration of a fit it
> holds them once; what the users hold beyond their priors, the items hold too.
-/

namespace PoissonFactor

/-! ## The counts along a fit -/

/-- Is this the renewal of a side? -/
def Phase.renews (x : Phase) : Prop :=
  x = .renewUsers ∨ x = .renewItems

/-- Nothing is counted behind the last renewal of an iteration. -/
theorem countsSince_fitPhases {x : Phase} (hx : x.renews) (n : Nat) :
    countsSince x (fitPhases n) = 0 := by
  cases n with
  | zero => rfl
  | succ n =>
    have hmem : x ∈ iterationPhases n := by
      rcases hx with rfl | rfl <;> simp [iterationPhases]
    rw [fitPhases_succ, countsSince_append_of_mem _ hmem]
    unfold iterationPhases
    by_cases h : n = 0
    · rw [if_pos h]
      rcases hx with rfl | rfl <;> decide
    · rw [if_neg h]
      rcases hx with rfl | rfl <;> decide

/-- Between the last two renewals of a side there is exactly one count. -/
theorem fitPhases_succ_renewal {x : Phase} (hx : x.renews) (n : Nat) :
    ∃ before after, fitPhases (n + 1) = before ++ x :: after ∧ x ∉ after
      ∧ countsSince x before = 1 := by
  have hzero := countsSince_fitPhases hx n
  have hrest : ∀ y : Phase, y.renews → y ∉ (if n = 0 then [.fixActivity] else [] : List Phase) := by
    intro y hy hmem
    by_cases h : n = 0
    · rw [if_pos h] at hmem
      rcases hy with rfl | rfl <;> exact absurd hmem (by decide)
    · rw [if_neg h] at hmem
      exact absurd hmem List.not_mem_nil
  rcases hx with rfl | rfl
  · refine ⟨fitPhases n ++ [.count], .renewItems :: if n = 0 then [.fixActivity] else [],
      ?_, ?_, ?_⟩
    · rw [fitPhases_succ, List.append_assoc]
      rfl
    · intro hmem
      rcases List.mem_cons.mp hmem with h | h
      · cases h
      · exact hrest _ (Or.inl rfl) h
    · rw [countsSince_concat, hzero]
      rfl
  · refine ⟨fitPhases n ++ [.count] ++ [.renewUsers], if n = 0 then [.fixActivity] else [], ?_,
      hrest _ (Or.inr rfl), ?_⟩
    · rw [fitPhases_succ, List.append_assoc, List.append_assoc]
      rfl
    · rw [countsSince_concat, countsSince_concat, hzero]
      rfl

namespace Trainer

section

variable [SpecialFunctions] {t : Trainer ℝ} {within : ℝ → Number → Except Failure Bool}
  {draw : Nat → ℝ} {c n m : Nat} {q : Progress t.Parameters ℝ}

/-- Behind an iteration a row holds its prior and its ratings once. -/
theorem Completes.sum_shape (a : Account t.problem m t.features) (ha : a.renewal.renews)
    (hk : 1 ≤ t.features) (h : t.Completes .rows within draw c (n + 1) q) (i : Fin m) :
    ∑ j : Fin t.features, (a.factor q.state).shape[i][j]
      = t.features * a.prior.shape + massOf t.problem a.rowOf i := by
  obtain ⟨before, after, hphases, hafter, hcounts⟩ := fitPhases_succ_renewal ha n
  have hsum := a.sum_shape hk draw before hafter i
  rw [hcounts, Nat.cast_one, one_mul] at hsum
  rw [h.state, hphases]
  exact hsum

/-- **Rating mass is conserved.** Behind any sequence of phases, what a row's counted shapes add
up to is its prior and, as often as ratings were counted since the last renewal, what its ratings
are worth; the shapes in use hold what was counted between the last renewal and the one before it.
Behind every iteration of a fit this is a single count, and what the users hold beyond their
priors is what the items hold beyond theirs. -/
theorem mass_conserved (t : Trainer ℝ) (hk : 1 ≤ t.features) (draw : Nat → ℝ) :
    (∀ (phases : List Phase) (u : Fin t.userIndex.size),
        ∑ j : Fin t.features, (t.reached .rows draw phases).users.counted[u][j]
          = t.features * t.problem.userPrior.shape
            + countsSince .renewUsers phases * massOf t.problem Observation.user u)
      ∧ (∀ (before after : List Phase), .renewUsers ∉ after → ∀ u : Fin t.userIndex.size,
        ∑ j : Fin t.features,
            (t.reached .rows draw (before ++ .renewUsers :: after)).users.shape[u][j]
          = t.features * t.problem.userPrior.shape
            + countsSince .renewUsers before * massOf t.problem Observation.user u)
      ∧ (∀ (phases : List Phase) (i : Fin t.itemIndex.size),
        ∑ j : Fin t.features, (t.reached .rows draw phases).items.counted[i][j]
          = t.features * t.problem.itemPrior.shape
            + countsSince .renewItems phases * massOf t.problem Observation.item i)
      ∧ (∀ (before after : List Phase), .renewItems ∉ after → ∀ i : Fin t.itemIndex.size,
        ∑ j : Fin t.features,
            (t.reached .rows draw (before ++ .renewItems :: after)).items.shape[i][j]
          = t.features * t.problem.itemPrior.shape
            + countsSince .renewItems before * massOf t.problem Observation.item i)
      ∧ ∀ (within : ℝ → Number → Except Failure Bool) (c n : Nat) (q : Progress t.Parameters ℝ),
        t.Completes .rows within draw c (n + 1) q →
          (∀ u : Fin t.userIndex.size, ∑ j : Fin t.features, q.state.users.shape[u][j]
            = t.features * t.problem.userPrior.shape + massOf t.problem Observation.user u)
          ∧ (∀ i : Fin t.itemIndex.size, ∑ j : Fin t.features, q.state.items.shape[i][j]
            = t.features * t.problem.itemPrior.shape + massOf t.problem Observation.item i)
          ∧ ∑ u : Fin t.userIndex.size, (∑ j : Fin t.features, q.state.users.shape[u][j]
              - t.features * t.problem.userPrior.shape)
            = ∑ i : Fin t.itemIndex.size, (∑ j : Fin t.features, q.state.items.shape[i][j]
              - t.features * t.problem.itemPrior.shape) := by
  refine ⟨(Account.ofUsers t.problem).sum_counted hk draw,
    fun before _ hafter => (Account.ofUsers t.problem).sum_shape hk draw before hafter,
    (Account.ofItems t.problem).sum_counted hk draw,
    fun before _ hafter => (Account.ofItems t.problem).sum_shape hk draw before hafter, ?_⟩
  intro within c n q h
  have husers : ∀ u : Fin t.userIndex.size, ∑ j : Fin t.features, q.state.users.shape[u][j]
      = t.features * t.problem.userPrior.shape + massOf t.problem Observation.user u :=
    h.sum_shape (Account.ofUsers t.problem) (Or.inl rfl) hk
  have hitems : ∀ i : Fin t.itemIndex.size, ∑ j : Fin t.features, q.state.items.shape[i][j]
      = t.features * t.problem.itemPrior.shape + massOf t.problem Observation.item i :=
    h.sum_shape (Account.ofItems t.problem) (Or.inr rfl) hk
  refine ⟨husers, hitems, ?_⟩
  -- Either side holds every rating above zero, in one of its rows.
  simp only [husers, hitems, add_sub_cancel_left]
  rw [sum_massOf, sum_massOf]

end

/-- The first user of the sample gave one rating, of three. -/
theorem massOf_sample : massOf sample.problem Observation.user ⟨0, by simp [sample]⟩ = 3 := by
  unfold massOf ratingsOf sample
  norm_num

theorem mass_conserved_sample :
    letI : SpecialFunctions := .gamma
    1 ≤ sample.features
      ∧ ∑ j : Fin sample.features,
          (sample.reached .rows (fun _ => 1 / 2)
            ([.count, .count] ++ .renewUsers :: [.count])).users.shape[0][j] = 2 * 1 + 2 * 3 := by
  let _ : SpecialFunctions := .gamma
  have hk : 1 ≤ sample.features := by decide
  have h := (mass_conserved sample hk fun _ => 1 / 2).2.1 [.count, .count] [.count] (by decide)
    ⟨0, by simp [sample]⟩
  rw [massOf_sample] at h
  exact ⟨hk, h⟩

end Trainer

end PoissonFactor
