import PoissonFactor.Proofs.Model.PairWeight
import PoissonFactor.Proofs.Training.Fit

/-!
# A fit knows its ratings only by pair

Two trainers that differ in nothing but their ratings carry out the same phases as soon
as every pair has the same weight in both: counting is the same function of the state
(`Rows.count_eq_of_pairWeight_eq`), and all other phases read no training rating. The
held-out ratings enter by a mean, which no order changes. Main result:

> `Trainer.fit_of_pairWeight`: such trainers run the same fit, iteration by iteration,
> and regrouping a list of ratings keeps all of its pair weights.
-/

namespace PoissonFactor

/-! ## Other ratings -/

/-- The same problem for other ratings. -/
abbrev Problem.withRatings {α : Type} {users items : Nat} (p : Problem α users items)
    (train validation : List (Observation α users items)) : Problem α users items :=
  { p with train, validation }

/-- The same trainer for other ratings. -/
abbrev Trainer.withRatings {α : Type} (t : Trainer α)
    (train validation : List (Observation α t.userIndex.size t.itemIndex.size)) : Trainer α :=
  { t with problem := t.problem.withRatings train validation }

section

variable [SpecialFunctions] {users items k : Nat}

/-- The mean log-likelihood of held-out ratings does not depend on their order. -/
theorem Rows.averageLogLikelihood_of_perm {p p' : Problem ℝ users items} (hhits : p.hits = p'.hits)
    (h : p.validation.Perm p'.validation) (s : State ℝ users items k) :
    averageLogLikelihood p s = averageLogLikelihood p' s := by
  unfold averageLogLikelihood
  rw [Scalar.real_sum, Scalar.real_sum, h.length_eq, hhits, (h.map _).sum_eq]

/-- With the same pair weights, all phases are the same. -/
theorem engine_withRatings (p : Problem ℝ users items)
    {train train' validation validation' : List (Observation ℝ users items)}
    (hw : ∀ u i, pairWeight train u i = pairWeight train' u i) (hv : validation.Perm validation') :
    (Backend.rows.engine (p.withRatings train validation) : Engine ℝ users items k)
      = Backend.rows.engine (p.withRatings train' validation') := by
  have hcount : (Rows.count (p.withRatings train validation) : State ℝ users items k → _)
      = Rows.count (p.withRatings train' validation') :=
    funext (Rows.count_eq_of_pairWeight_eq hw)
  have hvalue : (Rows.averageLogLikelihood (p.withRatings train validation) :
      State ℝ users items k → ℝ) = Rows.averageLogLikelihood (p.withRatings train' validation') :=
    funext (Rows.averageLogLikelihood_of_perm rfl hv)
  show Rows.engine _ = Rows.engine _
  unfold Rows.engine
  rw [hcount, hvalue]
  rfl

end

/-! ## The same fit -/

namespace Trainer

section

variable [SpecialFunctions]

/-- With the same pair weights, the loop of a fit is the same. -/
theorem loop_withRatings (t : Trainer ℝ) (within : ℝ → Number → Except Failure Bool)
    {train train' validation validation' :
      List (Observation ℝ t.userIndex.size t.itemIndex.size)}
    (hw : ∀ u i, pairWeight train u i = pairWeight train' u i) (hv : validation.Perm validation') :
    (t.withRatings train validation).loop .rows within
      = (t.withRatings train' validation').loop .rows within :=
  congrArg (fun e : Engine ℝ t.userIndex.size t.itemIndex.size t.features =>
      ({ advance := e.iterate
         check := e.check
         settle := e.fixActivity
         evaluate := e.averageLogLikelihood
         frequency := t.frequency
         stops := t.rule.stops within } : Loop Id t.Parameters ℝ))
    (engine_withRatings t.problem hw hv)

/-- **A fit knows its ratings only by pair.** Take one trainer for two lists of training ratings
that give every pair the same weight, and for two orders of the held-out ratings. Both fits end
alike, with the same progress: state, history and number of iterations. They complete the same
iterations with the same progress behind each, and a state makes the same model in both. Lists
come to the same weights whenever one is a regrouping of the other. -/
theorem fit_of_pairWeight (t : Trainer ℝ) (within : ℝ → Number → Except Failure Bool)
    (draw : Nat → ℝ) (c : Nat) :
    (∀ train train' validation validation' :
        List (Observation ℝ t.userIndex.size t.itemIndex.size),
      (∀ u i, pairWeight train u i = pairWeight train' u i) → validation.Perm validation' →
        (t.withRatings train validation).fitFrom .rows within draw c
            = (t.withRatings train' validation').fitFrom .rows within draw c
          ∧ (∀ n q, (t.withRatings train validation).Completes .rows within draw c n q
              ↔ (t.withRatings train' validation').Completes .rows within draw c n q)
          ∧ ∀ s : t.Parameters, (t.withRatings train validation).model .rows s
              = (t.withRatings train' validation').model .rows s)
      ∧ ∀ train train' : List (Observation ℝ t.userIndex.size t.itemIndex.size),
        Regrouped train train' → ∀ u i, pairWeight train u i = pairWeight train' u i := by
  refine ⟨?_, fun train train' h => h.pairWeight_eq⟩
  intro train train' validation validation' hw hv
  have hloop := t.loop_withRatings within hw hv
  refine ⟨?_, ?_, fun s => rfl⟩
  · rw [fitFrom_eq, fitFrom_eq, hloop]
    rfl
  · intro n q
    unfold Completes
    rw [hloop]
    rfl

end

/-- A rating of the sample's first user. -/
noncomputable def sampleRating (v : ℝ) :
    Observation ℝ sample.userIndex.size sample.itemIndex.size where
  user := ⟨0, by simp [sample]⟩
  item := ⟨0, by simp [sample]⟩
  value := v

/-- A rating of three, told in two parts and with one below zero besides. -/
theorem regrouped_sample :
    Regrouped [sampleRating 2, sampleRating 1, sampleRating (-1)] [sampleRating 3] := by
  have hsum : { sampleRating 2 with value := (sampleRating 2).value + (sampleRating 1).value }
      = sampleRating 3 := by
    simp only [sampleRating]
    norm_num
  have hmerge : Regrouped [sampleRating 2, sampleRating 1, sampleRating (-1)]
      [sampleRating 3, sampleRating (-1)] := by
    rw [← hsum]
    exact .merge rfl rfl one_le_two le_rfl
  have hdrop : Regrouped [sampleRating (-1), sampleRating 3] [sampleRating 3] :=
    .drop (neg_nonpos.mpr zero_le_one)
  exact hmerge.trans (.trans (.reorder (List.Perm.swap _ _ _)) hdrop)

theorem fit_of_pairWeight_sample :
    letI : SpecialFunctions := .gamma
    (∀ u i, pairWeight [sampleRating 2, sampleRating 1, sampleRating (-1)] u i
        = pairWeight [sampleRating 3] u i)
      ∧ [sampleRating 1, sampleRating 0].Perm [sampleRating 0, sampleRating 1]
      ∧ (sample.withRatings [sampleRating 2, sampleRating 1, sampleRating (-1)]
            [sampleRating 1, sampleRating 0]).fitFrom .rows (fun _ _ => .ok false)
            (fun _ => 1 / 2) 0
          = (sample.withRatings [sampleRating 3] [sampleRating 0, sampleRating 1]).fitFrom .rows
            (fun _ _ => .ok false) (fun _ => 1 / 2) 0 := by
  let _ : SpecialFunctions := .gamma
  have h := fit_of_pairWeight sample (fun _ _ => .ok false) (fun _ => 1 / 2) 0
  have hw := h.2 _ _ regrouped_sample
  have hv : [sampleRating 1, sampleRating 0].Perm [sampleRating 0, sampleRating 1] :=
    List.Perm.swap _ _ _
  exact ⟨hw, hv, (h.1 _ _ _ _ hw hv).1⟩

end Trainer

end PoissonFactor
