import Mathlib.Data.List.Basic
import PoissonFactor.Proofs.Training.Safety

/-!
# The trace of a run

A run carries four things along that are written at different moments: the count it
asks with, the number of the last completed iteration, the change it shows, and the
value the next evaluation is measured against. `Loop.progressAt` says what all of
them are after `n` iterations, from the sequence of states alone, and one step from
`progressAt n` leads to `progressAt (n + 1)` (`Loop.iterated_progressAt`).

What a run calls out for is seen by running the same steps in a monad that writes
every call down (`Loop.logged`). Main results:

> `Loop.run_trace`: a run finishes exactly at the first count where the rule says
> stop, with the progress `progressAt` of that count, and its calls are the
> questions `0, 1, …` in turn with an evaluation behind every multiple of the
> frequency, and no other.

> `Trainer.fitFrom_trace`: so does a fit, from its drawn start.
-/

namespace PoissonFactor

namespace Loop

variable {σ α : Type} [Scalar α]

/-! ## The sequences of a run -/

/-- The state after `n` iterations from `s`. -/
def stateAt (l : Loop Id σ α) (s : σ) : Nat → σ
  | 0 => s
  | n + 1 => l.nextState n (l.stateAt s n)

/-- The `m`-th value, that of the state right after iteration `m * frequency`. Before the first
one stands the largest number. -/
def valueAt (l : Loop Id σ α) (s : σ) : Nat → α
  | 0 => Scalar.largest
  | m + 1 => l.value (l.stateAt s ((m + 1) * l.frequency))

/-- The change that the `m`-th value makes against the one before it. -/
def changeOf (l : Loop Id σ α) (s : σ) (m : Nat) : α :=
  let current := l.valueAt s m
  let previous := l.valueAt s (m - 1)
  if Scalar.equal previous Scalar.zero then Scalar.abs (current - previous)
  else Scalar.abs ((current - previous) / previous)

/-- The `m`-th evaluation, from `m = 1` on. -/
def evaluationAt (l : Loop Id σ α) (s : σ) (m : Nat) : Evaluation α where
  iteration := (m * l.frequency : Nat)
  likelihood := l.valueAt s m
  change := l.changeOf s m

/-- The change that is shown at count `j`: one until the first evaluation, then that of the
latest. -/
def changeAt (l : Loop Id σ α) (s : σ) (j : Nat) : α :=
  if j < l.frequency then Scalar.one else l.changeOf s (j / l.frequency)

/-- The evaluations made in `n` iterations. -/
def historyAt (l : Loop Id σ α) (s : σ) (n : Nat) : List (Evaluation α) :=
  (List.range (n / l.frequency)).map fun m => l.evaluationAt s (m + 1)

/-- The whole progress after `n` iterations of a run from `s`. `c` is the number of completed
iterations that a run without any leaves standing. -/
def progressAt (l : Loop Id σ α) (s : σ) (c n : Nat) : Progress σ α where
  state := l.stateAt s n
  begun := n
  completed := if n = 0 then c else n
  change := l.changeAt s n
  previous := l.valueAt s (n / l.frequency)
  history := l.historyAt s n

/-! ## One iteration along the sequences -/

/-- An iteration at a multiple of the frequency makes the next value. -/
theorem valueAt_of_multiple (l : Loop Id σ α) (s : σ) {n : Nat}
    (hm : (n + 1) % l.frequency = 0) :
    l.valueAt s (n / l.frequency + 1) = l.value (l.stateAt s (n + 1)) := by
  have hdvd := Nat.dvd_of_mod_eq_zero hm
  have hmul : (n / l.frequency + 1) * l.frequency = n + 1 := by
    rw [← Nat.succ_div_of_dvd hdvd, Nat.div_mul_cancel hdvd]
  show l.value (l.stateAt s ((n / l.frequency + 1) * l.frequency)) = _
  rw [hmul]

/-- Where an evaluation is due, the change is that from the one before. -/
theorem changeOf_of_multiple (l : Loop Id σ α) (s : σ) {n : Nat}
    (hm : (n + 1) % l.frequency = 0) :
    l.changeOf s (n / l.frequency + 1)
      = relativeChange (l.value (l.stateAt s (n + 1))) (l.valueAt s (n / l.frequency)) := by
  unfold changeOf relativeChange
  rw [valueAt_of_multiple l s hm, Nat.add_sub_cancel]

/-- The evaluation that is due is the next one. -/
theorem evaluationAt_of_multiple (l : Loop Id σ α) (s : σ) {n : Nat}
    (hm : (n + 1) % l.frequency = 0) :
    l.evaluationAt s (n / l.frequency + 1) =
      { iteration := (n + 1 : Nat)
        likelihood := l.value (l.stateAt s (n + 1))
        change := relativeChange (l.value (l.stateAt s (n + 1)))
          (l.valueAt s (n / l.frequency)) } := by
  have hdvd := Nat.dvd_of_mod_eq_zero hm
  unfold evaluationAt
  rw [valueAt_of_multiple l s hm, changeOf_of_multiple l s hm, ← Nat.succ_div_of_dvd hdvd,
    Nat.div_mul_cancel hdvd]

theorem changeAt_of_multiple (l : Loop Id σ α) (s : σ) {n : Nat}
    (hm : (n + 1) % l.frequency = 0) :
    l.changeAt s (n + 1)
      = relativeChange (l.value (l.stateAt s (n + 1))) (l.valueAt s (n / l.frequency)) := by
  have hle : ¬ n + 1 < l.frequency := fun h => by
    rw [Nat.mod_eq_of_lt h] at hm
    omega
  unfold changeAt
  rw [if_neg hle, Nat.succ_div_of_dvd (Nat.dvd_of_mod_eq_zero hm), changeOf_of_multiple l s hm]

/-- It goes behind those there are. -/
theorem historyAt_of_multiple (l : Loop Id σ α) (s : σ) {n : Nat}
    (hm : (n + 1) % l.frequency = 0) :
    l.historyAt s (n + 1) = l.historyAt s n ++ [l.evaluationAt s (n / l.frequency + 1)] := by
  unfold historyAt
  rw [Nat.succ_div_of_dvd (Nat.dvd_of_mod_eq_zero hm), List.range_succ, List.map_append]
  rfl

/-- Between evaluations the change is held over. -/
theorem changeAt_of_not_multiple (l : Loop Id σ α) (s : σ) {n : Nat}
    (hm : ¬ (n + 1) % l.frequency = 0) : l.changeAt s (n + 1) = l.changeAt s n := by
  have hne : n + 1 ≠ l.frequency := fun h => hm (by rw [h, Nat.mod_self])
  have hlt : n + 1 < l.frequency ↔ n < l.frequency := by omega
  unfold changeAt
  rw [Nat.succ_div_of_not_dvd (fun h => hm (Nat.mod_eq_zero_of_dvd h))]
  simp only [hlt]

/-- Before the first iteration there is no evaluation and no change. -/
theorem progressAt_zero (l : Loop Id σ α) (hf : 1 ≤ l.frequency) (s : σ) (c : Nat) :
    l.progressAt s c 0 = begin s c := by
  have hdiv : 0 / l.frequency = 0 := Nat.zero_div _
  unfold progressAt changeAt historyAt
  rw [hdiv, if_pos (by omega : 0 < l.frequency)]
  rfl

/-- **The invariant of a run.** An iteration leads from one entry of the sequences to the
next. -/
theorem iterated_progressAt (l : Loop Id σ α) (s : σ) (c n : Nat) :
    l.iterated (l.progressAt s c n) = l.progressAt s c (n + 1) := by
  unfold iterated
  show (if (n + 1) % l.frequency = 0 then _ else _) = _
  by_cases hm : (n + 1) % l.frequency = 0
  · rw [if_pos hm]
    unfold progressAt
    rw [changeAt_of_multiple l s hm, historyAt_of_multiple l s hm, evaluationAt_of_multiple l s hm,
      Nat.succ_div_of_dvd (Nat.dvd_of_mod_eq_zero hm), valueAt_of_multiple l s hm,
      if_neg (Nat.succ_ne_zero n)]
    rfl
  · have hdiv : (n + 1) / l.frequency = n / l.frequency :=
      Nat.succ_div_of_not_dvd (fun h => hm (Nat.mod_eq_zero_of_dvd h))
    rw [if_neg hm]
    unfold progressAt historyAt
    rw [changeAt_of_not_multiple l s hm, hdiv, if_neg (Nat.succ_ne_zero n)]
    rfl

/-- What a run has reached after `n` iterations. -/
theorem iterate_begin (l : Loop Id σ α) (hf : 1 ≤ l.frequency) (s : σ) (c n : Nat) :
    l.iterated^[n] (begin s c) = l.progressAt s c n := by
  induction n with
  | zero => exact (progressAt_zero l hf s c).symm
  | succ n ih => rw [Function.iterate_succ_apply', ih, iterated_progressAt]

/-! ## When a run finishes -/

/-- Everything that makes a run from `s` perform exactly `n` iterations and finish. -/
structure FinishesAt (l : Loop Id σ α) (s : σ) (n : Nat) : Prop where
  /-- At every earlier count the rule says to go on … -/
  goes : ∀ j < n, l.answer j (l.changeAt s j) = .ok false
  /-- … and at this one to stop. -/
  stops : l.answer n (l.changeAt s n) = .ok true
  checked : ∀ j < n, l.check (phaseName j) (l.advance (l.stateAt s j)) = .ok ()
  finite : ∀ m < n / l.frequency, Scalar.isFinite (l.valueAt s (m + 1)) = true

/-- Every value in reach is finite exactly when each evaluated iteration leaves a finite one. -/
theorem finite_iff {l : Loop Id σ α} (hf : 1 ≤ l.frequency) (s : σ) (n : Nat) :
    (∀ m < n / l.frequency, Scalar.isFinite (l.valueAt s (m + 1)) = true) ↔
      ∀ j < n, (j + 1) % l.frequency = 0 →
        Scalar.isFinite (l.value (l.stateAt s (j + 1))) = true := by
  constructor
  · intro h j hj hm
    rw [← valueAt_of_multiple l s hm]
    apply h
    show j / l.frequency + 1 ≤ n / l.frequency
    rw [← Nat.succ_div_of_dvd (Nat.dvd_of_mod_eq_zero hm)]
    exact Nat.div_le_div_right hj
  · intro h m hm
    have hle : (m + 1) * l.frequency ≤ n := (Nat.le_div_iff_mul_le hf).mp hm
    have hpos : 0 < (m + 1) * l.frequency := Nat.mul_pos (Nat.succ_pos m) hf
    have hpred : (m + 1) * l.frequency - 1 + 1 = (m + 1) * l.frequency := by omega
    have hj := h ((m + 1) * l.frequency - 1) (by omega)
    rw [hpred] at hj
    exact hj (Nat.mul_mod_left _ _)

/-- Training goes on unless the rule says stop, a check fails or a value is not finite. -/
theorem goesOn_progressAt {l : Loop Id σ α} {s : σ} {c n : Nat} :
    l.GoesOn (l.progressAt s c n) ↔
      l.answer n (l.changeAt s n) = .ok false
        ∧ l.check (phaseName n) (l.advance (l.stateAt s n)) = .ok ()
        ∧ ((n + 1) % l.frequency = 0 →
          Scalar.isFinite (l.value (l.stateAt s (n + 1))) = true) :=
  ⟨fun h => ⟨h.asked, h.checked, h.finite⟩, fun ⟨ha, hc, hv⟩ => ⟨ha, hc, hv⟩⟩

/-- Before training finishes it goes on. -/
theorem FinishesAt.goesOn {l : Loop Id σ α} (hf : 1 ≤ l.frequency) {s : σ} {n : Nat}
    (h : l.FinishesAt s n) (c : Nat) {j : Nat} (hj : j < n) : l.GoesOn (l.progressAt s c j) :=
  goesOn_progressAt.mpr ⟨h.goes j hj, h.checked j hj, (finite_iff hf s n).mp h.finite j hj⟩

/-- A run finishes exactly when it is told to stop behind iterations that all completed. -/
theorem run_eq_finished_iff {l : Loop Id σ α} (hf : 1 ≤ l.frequency) {s : σ} {c : Nat}
    {q : Progress σ α} :
    l.run s c = (q, .finished) ↔ ∃ n, l.FinishesAt s n ∧ q = l.progressAt s c n := by
  constructor
  · intro h
    rcases run_cases l s c with ⟨hnever, -⟩ | ⟨n, q', e, hrun, hgo, hend⟩
    · rw [hnever] at h
      cases h
    · rw [hrun] at h
      cases h
      rw [iterate_begin l hf] at hend
      have hgo' : ∀ j < n, l.GoesOn (l.progressAt s c j) := fun j hj => by
        rw [← iterate_begin l hf]
        exact hgo j hj
      cases hend with
      | told ha =>
        refine ⟨n, ⟨fun j hj => (hgo' j hj).asked, ha, fun j hj => (hgo' j hj).checked, ?_⟩, rfl⟩
        exact (finite_iff hf s n).mpr fun j hj => (hgo' j hj).finite
  · rintro ⟨n, h, rfl⟩
    refine run_of_endsAs (n := n) (fun j hj => ?_) ?_
    · rw [iterate_begin l hf]
      exact h.goesOn hf c hj
    · rw [iterate_begin l hf]
      exact .told h.stops

/-! ## The calls of a run -/

/-- A call that a loop makes. -/
inductive Call (σ α : Type) where
  /-- Whether to stop, with the count and the change that are shown. -/
  | asked (count : Nat) (change : α)
  /-- For the value of a state. -/
  | evaluated (state : σ)

/-- The same loop, writing down every call before it is answered. -/
def logged (l : Loop Id σ α) : Loop (StateM (List (Call σ α))) σ α where
  advance := l.advance
  check := l.check
  settle := l.settle
  evaluate s := do
    modify (· ++ [.evaluated s])
    return l.value s
  frequency := l.frequency
  stops count change := do
    modify (· ++ [.asked count change])
    return l.answer count change

/-- The calls of one step: a question always, and an evaluation if the step gets that far. -/
def callsOf (l : Loop Id σ α) (p : Progress σ α) : List (Call σ α) :=
  .asked p.begun p.change ::
    match l.answer p.begun p.change, l.check (phaseName p.begun) (l.advance p.state) with
    | .ok false, .ok () =>
      if (p.begun + 1) % l.frequency = 0 then [.evaluated (l.nextState p.begun p.state)] else []
    | _, _ => []

/-- Recording asks for one value if an evaluation is due, and for none otherwise. -/
theorem logged_record (l : Loop Id σ α) (p : Progress σ α) (s : σ) (calls : List (Call σ α)) :
    Id.run ((l.logged.record (p.enter s)).run calls) =
      (Id.run (l.record (p.enter s)),
        calls ++ if (p.begun + 1) % l.frequency = 0 then [.evaluated s] else []) := by
  have hvalue : Id.run ((l.logged.evaluate (p.enter s).state).run calls)
      = (l.value s, calls ++ [.evaluated s]) := rfl
  have hread : evaluation (p.enter s).begun (l.value s) (p.enter s).previous
      = evaluation (p.begun + 1 : Nat) (l.value s) p.previous := rfl
  rw [record_enter]
  unfold record
  by_cases hm : (p.begun + 1) % l.frequency = 0
  · rw [if_pos hm, if_pos hm, if_pos (show (p.enter s).begun % l.logged.frequency = 0 from hm),
      StateT.run_bind, Id.run_bind, hvalue, hread]
    cases evaluation (p.begun + 1 : Nat) (l.value s) p.previous <;> rfl
  · rw [if_neg hm, if_neg hm, if_neg (show ¬ (p.enter s).begun % l.logged.frequency = 0 from hm),
      List.append_nil]
    rfl

/-- Writing the calls down changes nothing else. -/
theorem logged_step (l : Loop Id σ α) (p : Progress σ α) (calls : List (Call σ α)) :
    Id.run ((l.logged.step p).run calls) = (Id.run (l.step p), calls ++ l.callsOf p) := by
  have hasked : Id.run ((l.logged.stops p.begun p.change).run calls)
      = (l.answer p.begun p.change, calls ++ [.asked p.begun p.change]) := rfl
  have hcheck : l.logged.check (phaseName p.begun) (l.logged.advance p.state)
      = l.check (phaseName p.begun) (l.advance p.state) := rfl
  have hnext : l.logged.finish p.begun (l.logged.advance p.state)
      = l.nextState p.begun p.state := rfl
  rw [step_eq]
  unfold callsOf step
  rw [StateT.run_bind, Id.run_bind, hasked]
  cases l.answer p.begun p.change with
  | error cause => rfl
  | ok b =>
    cases b with
    | true => rfl
    | false =>
      dsimp only
      rw [hcheck]
      cases l.check (phaseName p.begun) (l.advance p.state) with
      | error cause => rfl
      | ok u =>
        have hrecord := logged_record l p (l.nextState p.begun p.state)
          (calls ++ [.asked p.begun p.change])
        dsimp only
        rw [hnext, StateT.run_bind, Id.run_bind, hrecord, List.append_assoc]
        cases Id.run (l.record (p.enter (l.nextState p.begun p.state))) <;> rfl

/-- An iteration that goes on adds its calls to the log. -/
theorem logged_steps_of_goesOn {l : Loop Id σ α} {p : Progress σ α} (h : l.GoesOn p) (n : Nat)
    (calls : List (Call σ α)) :
    Id.run ((l.logged.steps (n + 1) p).run calls)
      = Id.run ((l.logged.steps n (l.iterated p)).run (calls ++ l.callsOf p)) := by
  have hstep := logged_step l p calls
  rw [step_of_goesOn h] at hstep
  rw [steps, StateT.run_bind, Id.run_bind, hstep]

/-- So does the one that ends the training. -/
theorem logged_steps_of_endsAs {l : Loop Id σ α} {p q : Progress σ α} {e : Ending}
    (h : l.EndsAs p q e) (n : Nat) (calls : List (Call σ α)) :
    Id.run ((l.logged.steps (n + 1) p).run calls) = ((q, some e), calls ++ l.callsOf p) := by
  have hstep := logged_step l p calls
  rw [step_of_endsAs h] at hstep
  rw [steps, StateT.run_bind, Id.run_bind, hstep]
  rfl

/-- The calls of a run of `n` iterations that finishes: before every iteration a question, behind
every multiple of the frequency an evaluation, and one last question. -/
def callsUpTo (l : Loop Id σ α) (s : σ) (n : Nat) : List (Call σ α) :=
  ((List.range n).flatMap fun j =>
    .asked j (l.changeAt s j) ::
      if (j + 1) % l.frequency = 0 then [.evaluated (l.stateAt s (j + 1))] else [])
  ++ [.asked n (l.changeAt s n)]

/-- The rule is asked first, and the value is asked for behind the iteration. -/
theorem callsOf_of_goesOn {l : Loop Id σ α} {s : σ} {c n : Nat}
    (h : l.GoesOn (l.progressAt s c n)) :
    l.callsOf (l.progressAt s c n) =
      .asked n (l.changeAt s n) ::
        if (n + 1) % l.frequency = 0 then [.evaluated (l.stateAt s (n + 1))] else [] := by
  obtain ⟨ha, hc, -⟩ := goesOn_progressAt.mp h
  show Call.asked n (l.changeAt s n) :: (match l.answer n (l.changeAt s n),
    l.check (phaseName n) (l.advance (l.stateAt s n)) with
    | .ok false, .ok () => _
    | _, _ => _) = _
  rw [ha, hc]
  rfl

/-- An iteration that does not begin asks the rule only. -/
theorem callsOf_of_told {l : Loop Id σ α} {s : σ} {c n : Nat}
    (h : l.answer n (l.changeAt s n) = .ok true) :
    l.callsOf (l.progressAt s c n) = [.asked n (l.changeAt s n)] := by
  show Call.asked n (l.changeAt s n) :: (match l.answer n (l.changeAt s n),
    l.check (phaseName n) (l.advance (l.stateAt s n)) with
    | .ok false, .ok () => _
    | _, _ => _) = _
  rw [h]

/-- The logged run over `k` iterations that all complete, with `r` more steps to go. -/
theorem logged_steps_progressAt {l : Loop Id σ α} {s : σ} {c k : Nat}
    (hgo : ∀ j < k, l.GoesOn (l.progressAt s c j)) (r : Nat) :
    Id.run ((l.logged.steps (k + r) (l.progressAt s c 0)).run []) =
      Id.run ((l.logged.steps r (l.progressAt s c k)).run
        ((List.range k).flatMap fun j => l.callsOf (l.progressAt s c j))) := by
  induction k generalizing r with
  | zero => rw [Nat.zero_add]; rfl
  | succ k ih =>
    have hk : k + 1 + r = k + (r + 1) := by omega
    rw [hk, ih (fun j hj => hgo j (Nat.lt_succ_of_lt hj)),
      logged_steps_of_goesOn (hgo k (Nat.lt_succ_self k)), iterated_progressAt, List.range_succ,
      List.flatMap_append, List.flatMap_singleton]

/-- The logged run over iterations that finish. -/
theorem logged_steps_of_finishesAt {l : Loop Id σ α} (hf : 1 ≤ l.frequency) {s : σ} {n : Nat}
    (h : l.FinishesAt s n) (c : Nat) :
    Id.run ((l.logged.steps (n + 1) (begin s c)).run [])
      = ((l.progressAt s c n, some .finished), l.callsUpTo s n) := by
  have hgo : ∀ j < n, l.GoesOn (l.progressAt s c j) := fun j hj => h.goesOn hf c hj
  have hend : l.EndsAs (l.progressAt s c n) (l.progressAt s c n) .finished := .told h.stops
  rw [← progressAt_zero l hf s c, logged_steps_progressAt hgo 1, logged_steps_of_endsAs hend 0,
    callsOf_of_told h.stops]
  congr 2
  -- Every completed iteration made the calls that the list names for it.
  exact List.flatMap_congr fun j hj => callsOf_of_goesOn (hgo j (List.mem_range.mp hj))

end Loop

/-! ## The trace of a fit -/

namespace Trainer

section

variable {α : Type} [Scalar α] (t : Trainer α) (b : Backend)
  (within : α → Number → Except Failure Bool) (draw : Nat → α)

/-- The states of a run are those that the phases of its iterations reach. -/
theorem stateAt_eq_reached (n : Nat) :
    (t.loop b within).stateAt (.start t.problem draw t.features) n
      = t.reached b draw (fitPhases n) := by
  induction n with
  | zero => rfl
  | succ n ih =>
    show (t.loop b within).nextState n _ = _
    rw [ih, nextState_loop]
    unfold reached
    rw [fitPhases_succ, Engine.performAll_append]

/-- **The exact trace of a fit.** It gives a model exactly when its drawn start passes the check and
a run of its loop from there finishes: at the first count where the rule, shown the change of that
count, says stop. Its progress is then that of the count, with the evaluations at the multiples of
the frequency for its record, and its calls were the questions up to there with the evaluations
between them. -/
theorem fitFrom_trace (hf : 1 ≤ t.frequency) (c : Nat) :
    (∀ q, t.fitFrom b within draw c = .ok (q, .finished) ↔
        ∃ s n, t.start? draw = .ok s ∧ (t.loop b within).FinishesAt s n
          ∧ q = (t.loop b within).progressAt s c n)
      ∧ ∀ s n, (t.loop b within).FinishesAt s n →
        Id.run (((t.loop b within).logged.steps (n + 1) (Loop.begin s c)).run [])
          = (((t.loop b within).progressAt s c n, some .finished),
            (t.loop b within).callsUpTo s n) := by
  refine ⟨fun q => ?_, fun s n h => Loop.logged_steps_of_finishesAt hf h c⟩
  rw [fitFrom_eq]
  cases t.start? draw with
  | error cause =>
    constructor
    · intro h
      cases h
    · intro h
      obtain ⟨s, n, hs, -⟩ := h
      cases hs
  | ok s =>
    have hrun := Loop.run_eq_finished_iff (l := t.loop b within) hf (s := s) (c := c) (q := q)
    constructor
    · intro h
      obtain ⟨n, hn, hq⟩ := hrun.mp (Except.ok.inj h)
      exact ⟨s, n, rfl, hn, hq⟩
    · intro h
      obtain ⟨s', n, hs, hn, hq⟩ := h
      cases hs
      exact congrArg Except.ok (hrun.mpr ⟨n, hn, hq⟩)

end

/-- A fit of the sample finishes behind two iterations. -/
theorem finishesAt_sample [SpecialFunctions] (within : ℝ → Number → Except Failure Bool)
    {draw : Nat → ℝ} (hdraw : ∀ i, 0 ≤ draw i) :
    (sample.loop .rows within).FinishesAt (.start sample.problem draw sample.features) 2 where
  goes j hj := by
    interval_cases j
    all_goals rfl
  stops := rfl
  checked j _ := by
    refine check_advance sample_proper within ?_ _
    rw [stateAt_eq_reached]
    exact reached_positive sample_proper hdraw _
  finite _ _ := rfl

end Trainer

namespace Loop

/-- **The exact trace of a run.** It finishes exactly when some count `n` is the first at which
the rule, shown the change of that count, says stop, and every check and every evaluation up to
there passes. It then has performed `n` iterations and recorded the evaluations at the multiples
of the frequency up to `n`, and its calls were the questions `0, …, n` with their changes and the
evaluations of the states right behind those multiples, in this order and no others. -/
theorem run_trace {σ α : Type} [Scalar α] (l : Loop Id σ α) (hf : 1 ≤ l.frequency) (s : σ)
    (c : Nat) :
    (∀ q, l.run s c = (q, .finished) ↔ ∃ n, l.FinishesAt s n ∧ q = l.progressAt s c n) ∧
      ∀ n, l.FinishesAt s n →
        Id.run ((l.logged.steps (n + 1) (begin s c)).run [])
          = ((l.progressAt s c n, some .finished), l.callsUpTo s n) := by
  constructor
  · intro q
    exact run_eq_finished_iff hf
  · intro n h
    exact logged_steps_of_finishesAt hf h c

/-- The loop of a fit that is evaluated behind each of two iterations. -/
theorem run_trace_sample :
    letI : SpecialFunctions := .gamma
    let l := Trainer.sample.loop .rows (fun _ _ => .ok false)
    let s : Trainer.sample.Parameters :=
      .start Trainer.sample.problem (fun _ => 1 / 2) Trainer.sample.features
    1 ≤ l.frequency
      ∧ l.run s 0 = (l.progressAt s 0 2, .finished)
      ∧ Id.run ((l.logged.steps 3 (begin s 0)).run []) =
        ((l.progressAt s 0 2, some .finished),
          [.asked 0 (l.changeAt s 0), .evaluated (l.stateAt s 1), .asked 1 (l.changeAt s 1),
            .evaluated (l.stateAt s 2), .asked 2 (l.changeAt s 2)]) := by
  let _ : SpecialFunctions := .gamma
  intro l s
  have hf : 1 ≤ l.frequency := le_refl 1
  have hdraw : ∀ i, 0 ≤ (fun _ : Nat => (1 / 2 : ℝ)) i := fun _ => by norm_num
  have htwo : l.FinishesAt s 2 := Trainer.finishesAt_sample _ hdraw
  have hfrequency : l.frequency = 1 := rfl
  have hcalls : l.callsUpTo s 2
      = [.asked 0 (l.changeAt s 0), .evaluated (l.stateAt s 1), .asked 1 (l.changeAt s 1),
        .evaluated (l.stateAt s 2), .asked 2 (l.changeAt s 2)] := by
    unfold callsUpTo
    simp [hfrequency, Nat.mod_one, List.range_succ]
  obtain ⟨hfinished, hlogged⟩ := run_trace l hf s 0
  refine ⟨hf, (hfinished _).mpr ⟨2, htwo, rfl⟩, ?_⟩
  rw [← hcalls]
  exact hlogged 2 htwo

end Loop

end PoissonFactor
