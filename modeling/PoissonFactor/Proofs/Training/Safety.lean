import PoissonFactor.Proofs.Model.Positivity
import PoissonFactor.Proofs.Training.Fit

/-!
# No fit leaves the positive numbers

With positive priors and a start that only adds to them, no phase can do harm,
whatever came before it. What could go wrong is listed per phase: `Rows.divisors`
names what it divides by, `Rows.logArguments` what counting takes the digamma or
the logarithm of. Main result:

> `Trainer.fit_safe`: behind any sequence of phases the shapes are above their
> priors, everything in these lists is above zero and every check passes; so a fit
> ends because its rule says so, or because its rule fails.
-/

namespace PoissonFactor

section

variable [SpecialFunctions] {users items k : Nat}

/-! ## What could go wrong -/

/-- What a phase divides by. A renewal also divides by the rates it has just set. -/
noncomputable def Rows.divisors (p : Problem ℝ users items) (s : State ℝ users items k) :
    Phase → List ℝ
  | .count => []
  | .renewUsers =>
    s.items.rate.entries ++ s.users.activityRate.toList ++ [p.userPrior.activityRate]
      ++ (Rows.renewUsers p s).users.rate.entries
  | .renewItems =>
    s.users.rate.entries ++ s.items.activityRate.toList ++ [p.itemPrior.activityRate]
      ++ (Rows.renewItems p s).items.rate.entries
  | .fixActivity => []

/-- What counting takes the digamma and the logarithm of. -/
def Rows.logArguments (s : State ℝ users items k) : List ℝ :=
  s.users.shape.entries ++ s.users.rate.entries ++ s.items.shape.entries ++ s.items.rate.entries

/-- Nothing that is done to a state meets a number outside its domain. -/
structure State.Safe (p : Problem ℝ users items) (s : State ℝ users items k) : Prop where
  divisors : ∀ x, ∀ d ∈ Rows.divisors p s x, 0 < d
  logArguments : ∀ a ∈ Rows.logArguments s, 0 < a
  /-- The rates that the held-out ratings are judged by. -/
  heldOut : ∀ o ∈ p.validation, 0 < Rows.pairRate s o.user o.item

/-- A positive state is safe, since every phase leaves it positive. -/
theorem State.safe_of_positive {p : Problem ℝ users items} {s : State ℝ users items k}
    (hp : p.Proper) (hk : 1 ≤ k) (h : s.Positive) : s.Safe p := by
  refine ⟨?_, ?_, fun o _ => pairRate_pos hk h o.user o.item⟩
  · intro x d hd
    cases x with
    | count => exact absurd hd List.not_mem_nil
    | renewUsers =>
      have hnew : (Rows.renewUsers p s).Positive := perform_positive hp .renewUsers h
      simp only [Rows.divisors, List.mem_append, List.mem_singleton] at hd
      rcases hd with ((hd | hd) | rfl) | hd
      · exact h.items.entries_rate d hd
      · exact h.users.entries_activityRate d hd
      · exact hp.userPrior.activityRate
      · exact hnew.users.entries_rate d hd
    | renewItems =>
      have hnew : (Rows.renewItems p s).Positive := perform_positive hp .renewItems h
      simp only [Rows.divisors, List.mem_append, List.mem_singleton] at hd
      rcases hd with ((hd | hd) | rfl) | hd
      · exact h.users.entries_rate d hd
      · exact h.items.entries_activityRate d hd
      · exact hp.itemPrior.activityRate
      · exact hnew.items.entries_rate d hd
    | fixActivity => exact absurd hd List.not_mem_nil
  · intro a ha
    simp only [Rows.logArguments, List.mem_append] at ha
    rcases ha with ((ha | ha) | ha) | ha
    · exact h.users.entries_shape a ha
    · exact h.users.entries_rate a ha
    · exact h.items.entries_shape a ha
    · exact h.items.entries_rate a ha

end

namespace Trainer

section

variable [SpecialFunctions] {t : Trainer ℝ} {draw : Nat → ℝ}

/-- Whatever is reached from a proper start is positive. -/
theorem reached_positive (hp : t.problem.Proper) (hdraw : ∀ i, 0 ≤ draw i) (phases : List Phase) :
    (t.reached .rows draw phases).Positive :=
  State.performAll_positive hp phases (State.start_positive hp hdraw)

theorem reached_above (hp : t.problem.Proper) (hdraw : ∀ i, 0 ≤ draw i) (phases : List Phase) :
    (t.reached .rows draw phases).Above t.problem :=
  State.performAll_above hp phases (State.start_above hp hdraw)

/-- A proper start passes its check. -/
theorem start?_of_proper (hp : t.problem.Proper) (hdraw : ∀ i, 0 ≤ draw i) :
    t.start? draw = .ok (t.reached .rows draw []) :=
  (start?_eq_ok_iff t draw _).mpr ⟨rfl, State.check_of_positive (reached_positive hp hdraw []) _⟩

/-- An iteration of a positive state stays positive, so its check passes. -/
theorem check_advance (hp : t.problem.Proper) (within : ℝ → Number → Except Failure Bool)
    {s : t.Parameters} (h : s.Positive) (phase : String) :
    (t.loop .rows within).check phase ((t.loop .rows within).advance s) = .ok () :=
  State.check_of_positive (State.performAll_positive hp [.count, .renewUsers, .renewItems] h) phase

/-- **No fit leaves the positive numbers.** With proper priors and offsets, and draws that are not
negative, the start passes its check. Whatever phases are taken from there, in whatever order, no
shape falls below its prior, all rates are above zero, nothing is divided by or logged that is
not, and every check passes. So a fit always has an outcome: it is finished, or its rule failed,
or its rule lets it go on forever. -/
theorem fit_safe (t : Trainer ℝ) (hp : t.problem.Proper) (hk : 1 ≤ t.features) (draw : Nat → ℝ)
    (hdraw : ∀ i, 0 ≤ draw i) :
    t.start? draw = .ok (t.reached .rows draw [])
      ∧ (∀ phases : List Phase,
          (t.reached .rows draw phases).Above t.problem
            ∧ (t.reached .rows draw phases).Positive
            ∧ (t.reached .rows draw phases).Safe t.problem
            ∧ ∀ phase, (Backend.rows.engine t.problem).check phase (t.reached .rows draw phases)
                = .ok ())
      ∧ ∀ (within : ℝ → Number → Except Failure Bool) (c : Nat),
          ∃ q e, t.fitFrom .rows within draw c = .ok (q, e)
            ∧ (e = .finished
              ∨ (∃ cause, t.rule.stops within q.begun q.change = .error cause ∧ e = .failed cause)
              ∨ (e = .failed .unfinished ∧ ∀ n, ∃ p, t.Completes .rows within draw c n p)) := by
  have hstart := start?_of_proper hp hdraw
  refine ⟨hstart, ?_, ?_⟩
  · intro phases
    have hpos := reached_positive hp hdraw phases
    exact ⟨reached_above hp hdraw phases, hpos, State.safe_of_positive hp hk hpos,
      State.check_of_positive hpos⟩
  · intro within c
    rcases fitFrom_cases .rows within c hstart with ⟨hrun, hall⟩ | ⟨n, p, q, e, hrun, hdone, hend⟩
    · exact ⟨_, _, hrun, Or.inr (Or.inr ⟨rfl, hall⟩)⟩
    · have hpos : p.state.Positive := by
        rw [hdone.state]
        exact reached_positive hp hdraw _
      refine ⟨q, e, hrun, ?_⟩
      cases hend with
      | told ha => exact Or.inl rfl
      | ruleFailed ha => exact Or.inr (Or.inl ⟨_, ha, rfl⟩)
      | checkFailed ha hc =>
        -- The check is that of a positive state, which cannot fail.
        rw [check_advance hp within hpos] at hc
        cases hc
      | notFinite ha hc hm hf => cases hf

end

theorem sample_proper : sample.problem.Proper where
  userPrior := ⟨one_pos, one_pos, one_pos⟩
  itemPrior := ⟨one_pos, one_pos, one_pos⟩
  offsetShape := le_refl 0
  offsetRate := le_refl 0

theorem fit_safe_sample :
    letI : SpecialFunctions := .gamma
    sample.problem.Proper ∧ 1 ≤ sample.features ∧ (0 : ℝ) ≤ 1 / 2
      ∧ sample.start? (fun _ => 1 / 2) = .ok (sample.reached .rows (fun _ => 1 / 2) [])
      ∧ (sample.reached .rows (fun _ => 1 / 2) [.renewItems, .count, .renewUsers]).Safe
          sample.problem := by
  let _ : SpecialFunctions := .gamma
  have hhalf : (0 : ℝ) ≤ 1 / 2 := by norm_num
  have hk : 1 ≤ sample.features := by decide
  have h := fit_safe sample sample_proper hk (fun _ => 1 / 2) fun _ => hhalf
  exact ⟨sample_proper, hk, hhalf, h.1, (h.2.1 [.renewItems, .count, .renewUsers]).2.2.1⟩

end Trainer

end PoissonFactor
