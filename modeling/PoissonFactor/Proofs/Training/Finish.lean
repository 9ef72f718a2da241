import PoissonFactor.Proofs.Training.Backends
import PoissonFactor.Proofs.Training.Guards
import PoissonFactor.Proofs.Training.Stopping

/-!
# A proper fit finishes

With proper priors no iteration breaks off, so what ends a fit is its rule alone. A
rule that has a greatest number of iterations says stop before, or there:

> `Trainer.exists_finished`: under such a rule a proper fit finishes, with a state that
> is positive and behind no more iterations than these.

Along the way everything an evaluation takes the logarithm of, or divides by, lies above
zero (`State.likelihoodArguments_pos`).
-/

namespace PoissonFactor

/-- A run whose iterations all pass finishes where its rule says stop. -/
theorem Loop.finishesAt_of_stopsAt {σ α : Type} [Scalar α] {l : Loop Id σ α} {s : σ}
    (hf : 1 ≤ l.frequency) {rule : StoppingRule α} {within : α → Number → Except Failure Bool}
    (hl : ∀ n x, l.answer n x = rule.stops within n x) {n : Nat}
    (h : rule.StopsAt within (l.changeAt s) n) (hpass : ∀ j < n, l.Passes s j) :
    l.FinishesAt s n where
  goes j hj := (hl j _).trans (h.goes j hj)
  stops := (hl n _).trans h.stops
  checked j hj := (hpass j hj).checked
  finite := (finite_iff hf s n).mpr fun j hj => (hpass j hj).finite

namespace Trainer

/-- Both backends reach the same parameters. -/
theorem reached_columns {α : Type} [Scalar α] (t : Trainer α) (draw : Nat → α)
    (phases : List Phase) : t.reached .columns draw phases = t.reached .rows draw phases := by
  unfold reached
  rw [Backend.engine_columns_eq_rows]

/-! ## The model of a state -/

section

variable {α : Type} [Scalar α] (t : Trainer α) (b : Backend) (s : t.Parameters) {v : Value}

/-- The vector of a user is the shape over the rate in the user's row. -/
theorem userVector_model {i : Fin t.userIndex.size} (h : t.userIndex.indexOf v = .ok i) :
    (t.model b s).userVector v = .ok (Vector.ofFn fun j => s.users.mean i j) := by
  have hrow : s.users.means[i] = Vector.ofFn fun j => s.users.mean i j := Row.getElem_ofFn _ i
  cases b with
  | rows =>
    show (t.userIndex.indexOf v >>= fun i => pure s.users.means[i]) = _
    rw [h]
    exact congrArg Except.ok hrow
  | columns =>
    show (t.userIndex.indexOf v >>= fun i => pure (Columns.means s.users)[i]) = _
    rw [h, Columns.means_eq]
    exact congrArg Except.ok hrow

/-- A key that is not known is refused by the model as by its index. -/
theorem userVector_model_error {cause : Failure} (h : t.userIndex.indexOf v = .error cause) :
    (t.model b s).userVector v = .error cause := by
  show (t.userIndex.indexOf v >>= _) = _
  rw [h]
  rfl

/-- The vector of an item is the shape over the rate in the item's row. -/
theorem itemVector_model {i : Fin t.itemIndex.size} (h : t.itemIndex.indexOf v = .ok i) :
    (t.model b s).itemVector v = .ok (Vector.ofFn fun j => s.items.mean i j) := by
  have hrow : s.items.means[i] = Vector.ofFn fun j => s.items.mean i j := Row.getElem_ofFn _ i
  cases b with
  | rows =>
    show (t.itemIndex.indexOf v >>= fun i => pure s.items.means[i]) = _
    rw [h]
    exact congrArg Except.ok hrow
  | columns =>
    show (t.itemIndex.indexOf v >>= fun i => pure (Columns.means s.items)[i]) = _
    rw [h, Columns.means_eq]
    exact congrArg Except.ok hrow

theorem itemVector_model_error {cause : Failure} (h : t.itemIndex.indexOf v = .error cause) :
    (t.model b s).itemVector v = .error cause := by
  show (t.itemIndex.indexOf v >>= _) = _
  rw [h]
  rfl

end

/-! ## Proper fits -/

section

variable [SpecialFunctions] {t : Trainer ℝ} {draw : Nat → ℝ}

/-- With proper priors every iteration passes its check, for all parameters stay positive. -/
theorem passes_of_proper (hp : t.problem.Proper) (hdraw : ∀ i, 0 ≤ draw i)
    (within : ℝ → Number → Except Failure Bool) (n : Nat) :
    (t.loop .rows within).Passes (.start t.problem draw t.features) n where
  checked := by
    refine check_advance hp within ?_ _
    rw [stateAt_eq_reached]
    exact reached_positive hp hdraw _
  finite _ := rfl

/-- **A proper fit finishes**, under a rule that has a greatest number of iterations. -/
theorem exists_finished (hp : t.problem.Proper) (hf : 1 ≤ t.frequency) (hdraw : ∀ i, 0 ≤ draw i)
    {within : ℝ → Number → Except Failure Bool} {m : Int} (hrule : t.rule.Caps within m)
    (b : Backend) :
    ∃ p, t.fitFrom b within draw 0 = .ok (p, .finished) ∧ (p.completed : Int) ≤ m
      ∧ p.state.Positive := by
  let s : t.Parameters := .start t.problem draw t.features
  let l := t.loop .rows within
  -- No iteration breaks off, so the run gets to where the rule first says stop.
  obtain ⟨n, hn, hstops⟩ := hrule.stops (l.changeAt s)
  have hfinish : l.FinishesAt s n :=
    Loop.finishesAt_of_stopsAt hf (fun _ _ => rfl) hstops fun j _ =>
      passes_of_proper hp hdraw within j
  have hrun : l.run s 0 = (l.progressAt s 0 n, .finished) :=
    (Loop.run_eq_finished_iff hf).mpr ⟨n, hfinish, rfl⟩
  have hrows : t.fitFrom .rows within draw 0 = .ok (l.progressAt s 0 n, .finished) := by
    rw [fitFrom_eq, start?_of_proper hp hdraw]
    exact congrArg Except.ok hrun
  have hstate : (l.progressAt s 0 n).state.Positive := by
    show (l.stateAt s n).Positive
    rw [stateAt_eq_reached]
    exact reached_positive hp hdraw _
  refine ⟨l.progressAt s 0 n, ?_, ?_, hstate⟩
  · cases b with
    | rows => exact hrows
    | columns => rw [fitFrom_columns, hrows]
  · rw [Loop.completed_progressAt_zero]
    exact hn

end

end Trainer

/-! ## What an evaluation asks for -/

section

variable [SpecialFunctions] {users items k : Nat}

/-- What the evaluation of a state divides by, and what it takes the logarithm or the log-gamma
of: for hits the chance that a rating is one, else the rate and the rating counted from one. -/
noncomputable def Rows.likelihoodArguments (p : Problem ℝ users items) (s : State ℝ users items k) :
    List ℝ :=
  (p.validation.length : ℝ) :: p.validation.flatMap fun o =>
    if p.hits then [-(Real.exp (-pairRate s o.user o.item) - 1)]
    else [pairRate s o.user o.item, o.value + 1]

/-- Every logarithm of the likelihood is taken of a positive number. -/
theorem State.likelihoodArguments_pos {p : Problem ℝ users items} {s : State ℝ users items k}
    (hk : 1 ≤ k) (h : s.Positive) (hheld : p.validation ≠ [])
    (hcounts : p.hits = false → ∀ o ∈ p.validation, 0 ≤ o.value) :
    ∀ a ∈ Rows.likelihoodArguments p s, 0 < a := by
  intro a ha
  rcases List.mem_cons.mp ha with rfl | ha
  · exact_mod_cast List.length_pos_iff.mpr hheld
  · obtain ⟨o, ho, ha⟩ := List.mem_flatMap.mp ha
    have hrate : 0 < Rows.pairRate s o.user o.item := pairRate_pos hk h o.user o.item
    cases hhits : p.hits with
    | true =>
      rw [hhits, if_pos rfl, List.mem_singleton] at ha
      have hexp : Real.exp (-Rows.pairRate s o.user o.item) < 1 :=
        Real.exp_lt_one_iff.mpr (by linarith)
      rw [ha]
      linarith
    | false =>
      rw [hhits, if_neg Bool.false_ne_true, List.mem_cons, List.mem_singleton] at ha
      have hvalue : 0 ≤ o.value := hcounts hhits o ho
      rcases ha with rfl | rfl
      · exact hrate
      · linarith

end

end PoissonFactor
