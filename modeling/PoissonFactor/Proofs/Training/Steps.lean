import Mathlib.Data.Nat.Find
import Mathlib.Logic.Function.Iterate
import PoissonFactor.Training.Loop

/-!
# A loop, step by step

`Loop.step` asks once and, if it is told to go on, runs one iteration. This file
says what a step can do and reads a whole run as finitely many steps:

> `Loop.step_eq_none_iff`: a step goes on exactly when `GoesOn` holds, and then it
> leaves `iterated`.

> `Loop.step_eq_some_iff`: a step ends the run exactly in the ways of `EndsAs`.

> `Loop.runFrom_eq_some_iff`: a run ends as `(q, e)` exactly when some number of
> steps does.

A statement about every run needs only these and no look into `step`.
-/

namespace PoissonFactor

namespace Loop

variable {σ α : Type} [Scalar α]

/-! ## What a step can do -/

/-- The value of a state. -/
def value (l : Loop Id σ α) (s : σ) : α := Id.run (l.evaluate s)

/-- The answer to a question. -/
def answer (l : Loop Id σ α) (count : Nat) (change : α) : Except Failure Bool :=
  Id.run (l.stops count change)

/-- The state that an iteration leaves, `before` iterations having gone before. -/
def nextState (l : Loop Id σ α) (before : Nat) (s : σ) : σ :=
  l.finish before (l.advance s)

/-- The progress after one more completed iteration. -/
def iterated (l : Loop Id σ α) (p : Progress σ α) : Progress σ α :=
  let state := l.nextState p.begun p.state
  if (p.begun + 1) % l.frequency = 0 then
    let change := relativeChange (l.value state) p.previous
    { state
      begun := p.begun + 1
      completed := p.begun + 1
      change
      previous := l.value state
      history := p.history
        ++ [{ iteration := (p.begun + 1 : Nat), likelihood := l.value state, change }] }
  else { p with state, begun := p.begun + 1, completed := p.begun + 1 }

/-- Everything that has to hold for a step to complete its iteration. -/
structure GoesOn (l : Loop Id σ α) (p : Progress σ α) : Prop where
  asked : l.answer p.begun p.change = .ok false
  checked : l.check (phaseName p.begun) (l.advance p.state) = .ok ()
  finite : (p.begun + 1) % l.frequency = 0 →
    Scalar.isFinite (l.value (l.nextState p.begun p.state)) = true

/-- Every way a step can end the run. -/
inductive EndsAs (l : Loop Id σ α) (p : Progress σ α) : Progress σ α → Ending → Prop where
  | told : l.answer p.begun p.change = .ok true → EndsAs l p p .finished
  | ruleFailed {cause : Failure} :
    l.answer p.begun p.change = .error cause → EndsAs l p p (.failed cause)
  | checkFailed {cause : Failure} :
    l.answer p.begun p.change = .ok false →
    l.check (phaseName p.begun) (l.advance p.state) = .error cause →
    EndsAs l p (p.enter (l.advance p.state)) (.failed cause)
  | notFinite :
    l.answer p.begun p.change = .ok false →
    l.check (phaseName p.begun) (l.advance p.state) = .ok () →
    (p.begun + 1) % l.frequency = 0 →
    Scalar.isFinite (l.value (l.nextState p.begun p.state)) = false →
    EndsAs l p (p.enter (l.nextState p.begun p.state))
      (.failed (.likelihoodNotFinite (toString (p.begun + 1))))

/-! ## The step lemmas -/

/-- A finite likelihood is entered with its change. -/
theorem evaluation_of_finite {current : α} (h : Scalar.isFinite current = true) (iteration : Int)
    (previous : α) :
    evaluation iteration current previous =
      .ok { iteration, likelihood := current, change := relativeChange current previous } := by
  unfold evaluation
  rw [if_pos h]

/-- Any other one ends the training. -/
theorem evaluation_of_not_finite {current : α} (h : Scalar.isFinite current = false)
    (iteration : Int) (previous : α) :
    evaluation iteration current previous = .error (.likelihoodNotFinite (toString iteration)) := by
  unfold evaluation
  rw [h]
  rfl

/-- What recording answers behind an iteration that left the state `s`. -/
theorem record_enter (l : Loop Id σ α) (p : Progress σ α) (s : σ) :
    Id.run (l.record (p.enter s)) =
      if (p.begun + 1) % l.frequency = 0 then
        (evaluation (p.begun + 1 : Nat) (l.value s) p.previous).map fun e =>
          { p.enter s with
            change := e.change, previous := l.value s, history := p.history ++ [e] }
      else .ok (p.enter s) := by
  have hread : evaluation (p.enter s).begun (Id.run (l.evaluate (p.enter s).state))
      (p.enter s).previous = evaluation (p.begun + 1 : Nat) (l.value s) p.previous := rfl
  unfold record
  by_cases hm : (p.begun + 1) % l.frequency = 0
  · rw [if_pos hm, if_pos (show (p.enter s).begun % l.frequency = 0 from hm), Id.run_bind, hread]
    cases evaluation (p.begun + 1 : Nat) (l.value s) p.previous <;> rfl
  · rw [if_neg hm, if_neg (show ¬ (p.enter s).begun % l.frequency = 0 from hm)]
    rfl

/-- A step, opened: one question, one check, one record. -/
theorem step_eq (l : Loop Id σ α) (p : Progress σ α) :
    Id.run (l.step p) =
      match l.answer p.begun p.change with
      | .error cause => (p, some (.failed cause))
      | .ok true => (p, some .finished)
      | .ok false =>
        match l.check (phaseName p.begun) (l.advance p.state) with
        | .error cause => (p.enter (l.advance p.state), some (.failed cause))
        | .ok () =>
          match Id.run (l.record (p.enter (l.nextState p.begun p.state))) with
          | .error cause => (p.enter (l.nextState p.begun p.state), some (.failed cause))
          | .ok q => ({ q with completed := q.begun }, none) := by
  unfold step
  show Id.run (match l.answer p.begun p.change with
    | .error cause => _
    | .ok true => _
    | .ok false => _) = _
  cases l.answer p.begun p.change with
  | error cause => rfl
  | ok b =>
    cases b with
    | true => rfl
    | false =>
      show Id.run (match l.check (phaseName p.begun) (l.advance p.state) with
        | .error cause => _
        | .ok () => _) = _
      cases l.check (phaseName p.begun) (l.advance p.state) with
      | error cause => rfl
      | ok u =>
        show Id.run (match Id.run (l.record (p.enter (l.nextState p.begun p.state))) with
          | .error cause => _
          | .ok q => _) = _
        cases Id.run (l.record (p.enter (l.nextState p.begun p.state))) <;> rfl

/-- An iteration that goes on leaves the progress it made. -/
theorem step_of_goesOn {l : Loop Id σ α} {p : Progress σ α} (h : l.GoesOn p) :
    Id.run (l.step p) = (l.iterated p, none) := by
  rw [step_eq, h.asked]
  dsimp only
  rw [h.checked]
  dsimp only
  rw [record_enter]
  unfold iterated
  by_cases hm : (p.begun + 1) % l.frequency = 0
  · rw [if_pos hm, if_pos hm, evaluation_of_finite (h.finite hm)]
    rfl
  · rw [if_neg hm, if_neg hm]
    rfl

/-- One that ends leaves its ending with it. -/
theorem step_of_endsAs {l : Loop Id σ α} {p q : Progress σ α} {e : Ending}
    (h : l.EndsAs p q e) : Id.run (l.step p) = (q, some e) := by
  rw [step_eq]
  cases h with
  | told ha => rw [ha]
  | ruleFailed ha => rw [ha]
  | checkFailed ha hc =>
    rw [ha]
    dsimp only
    rw [hc]
  | notFinite ha hc hm hf =>
    rw [ha]
    dsimp only
    rw [hc]
    dsimp only
    rw [record_enter, if_pos hm, evaluation_of_not_finite hf]
    rfl

/-- A step either completes its iteration or ends the run. -/
theorem goesOn_or_endsAs (l : Loop Id σ α) (p : Progress σ α) :
    l.GoesOn p ∨ ∃ q e, l.EndsAs p q e := by
  cases ha : l.answer p.begun p.change with
  | error cause => exact Or.inr ⟨_, _, .ruleFailed ha⟩
  | ok b =>
    cases b with
    | true => exact Or.inr ⟨_, _, .told ha⟩
    | false =>
      cases hc : l.check (phaseName p.begun) (l.advance p.state) with
      | error cause => exact Or.inr ⟨_, _, .checkFailed ha hc⟩
      | ok u =>
        by_cases hm : (p.begun + 1) % l.frequency = 0
        · cases hf : Scalar.isFinite (l.value (l.nextState p.begun p.state)) with
          | true => exact Or.inl ⟨ha, hc, fun _ => hf⟩
          | false => exact Or.inr ⟨_, _, .notFinite ha hc hm hf⟩
        · exact Or.inl ⟨ha, hc, fun h => absurd h hm⟩

/-- A step goes on exactly when nothing stands in its way. -/
theorem step_eq_none_iff {l : Loop Id σ α} {p q : Progress σ α} :
    Id.run (l.step p) = (q, none) ↔ l.GoesOn p ∧ q = l.iterated p := by
  constructor
  · intro h
    rcases goesOn_or_endsAs l p with hg | ⟨r, e, he⟩
    · rw [step_of_goesOn hg] at h
      exact ⟨hg, (Prod.ext_iff.mp h).1.symm⟩
    · rw [step_of_endsAs he] at h
      cases h
  · rintro ⟨hg, rfl⟩
    exact step_of_goesOn hg

/-- A step ends the run exactly in one of the four ways. -/
theorem step_eq_some_iff {l : Loop Id σ α} {p q : Progress σ α} {e : Ending} :
    Id.run (l.step p) = (q, some e) ↔ l.EndsAs p q e := by
  constructor
  · intro h
    rcases goesOn_or_endsAs l p with hg | ⟨r, e', he⟩
    · rw [step_of_goesOn hg] at h
      cases h
    · rw [step_of_endsAs he] at h
      cases h
      exact he
  · exact step_of_endsAs

theorem iterated_begun (l : Loop Id σ α) (p : Progress σ α) :
    (l.iterated p).begun = p.begun + 1 := by
  unfold iterated
  by_cases h : (p.begun + 1) % l.frequency = 0
  · rw [if_pos h]
  · rw [if_neg h]

theorem iterated_state (l : Loop Id σ α) (p : Progress σ α) :
    (l.iterated p).state = l.nextState p.begun p.state := by
  unfold iterated
  by_cases h : (p.begun + 1) % l.frequency = 0
  · rw [if_pos h]
  · rw [if_neg h]

/-! ## Several steps -/

/-- Up to `n` steps, fewer if one of them ends the run. -/
def steps {m : Type → Type} [Monad m] (l : Loop m σ α) :
    Nat → Progress σ α → m (Progress σ α × Option Ending)
  | 0, p => return (p, none)
  | n + 1, p => do
    match ← l.step p with
    | (q, none) => l.steps n q
    | (q, some e) => return (q, some e)

/-- Of several steps the first can be taken alone. -/
theorem steps_of_goesOn {l : Loop Id σ α} {p : Progress σ α} (h : l.GoesOn p) (n : Nat) :
    Id.run (l.steps (n + 1) p) = Id.run (l.steps n (l.iterated p)) := by
  show Id.run (match Id.run (l.step p) with
    | (q, none) => _
    | (q, some e) => _) = _
  rw [step_of_goesOn h]

/-- Behind an ending no further step is taken. -/
theorem steps_of_endsAs {l : Loop Id σ α} {p q : Progress σ α} {e : Ending}
    (h : l.EndsAs p q e) (n : Nat) : Id.run (l.steps (n + 1) p) = (q, some e) := by
  show Id.run (match Id.run (l.step p) with
    | (q, none) => _
    | (q, some e) => _) = _
  rw [step_of_endsAs h]
  rfl

/-- Steps that do not end a run are so many completed iterations. -/
theorem steps_eq_none_iff {l : Loop Id σ α} {p q : Progress σ α} {n : Nat} :
    Id.run (l.steps n p) = (q, none) ↔
      (∀ i < n, l.GoesOn (l.iterated^[i] p)) ∧ q = l.iterated^[n] p := by
  induction n generalizing p with
  | zero =>
    constructor
    · intro h
      exact ⟨fun i hi => absurd hi (Nat.not_lt_zero i), (Prod.ext_iff.mp h).1.symm⟩
    · rintro ⟨-, rfl⟩
      rfl
  | succ n ih =>
    rcases goesOn_or_endsAs l p with hg | ⟨r, e, he⟩
    · rw [steps_of_goesOn hg, ih]
      constructor
      · rintro ⟨hgo, hq⟩
        refine ⟨fun i hi => ?_, hq⟩
        cases i with
        | zero => exact hg
        | succ i => exact hgo i (by omega)
      · rintro ⟨hgo, hq⟩
        exact ⟨fun i hi => hgo (i + 1) (by omega), hq⟩
    · rw [steps_of_endsAs he]
      constructor
      · intro h
        cases h
      · rintro ⟨hgo, -⟩
        have hg : l.GoesOn p := hgo 0 (Nat.succ_pos n)
        have h := step_of_endsAs he
        rw [step_of_goesOn hg] at h
        cases h

/-! ## A run as finitely many steps -/

/-- A run from here is a run from the next iteration. -/
theorem runFrom_of_goesOn {l : Loop Id σ α} {p : Progress σ α} (h : l.GoesOn p) :
    l.runFrom p = l.runFrom (l.iterated p) := by
  rw [runFrom, step_of_goesOn h]

/-- A run that ends here has this ending. -/
theorem runFrom_of_endsAs {l : Loop Id σ α} {p q : Progress σ α} {e : Ending}
    (h : l.EndsAs p q e) : l.runFrom p = some (q, e) := by
  rw [runFrom, step_of_endsAs h]

/-- A run ends as `(q, e)` exactly when, after some number of completed iterations, a step
does. -/
theorem runFrom_eq_some_iff {l : Loop Id σ α} {p q : Progress σ α} {e : Ending} :
    l.runFrom p = some (q, e) ↔
      ∃ n, (∀ i < n, l.GoesOn (l.iterated^[i] p)) ∧ l.EndsAs (l.iterated^[n] p) q e := by
  constructor
  · intro h
    -- Induction along the run: whatever a shorter run ends as, one more iteration keeps.
    refine runFrom.partial_correctness (σ := σ) (α := α) (l := l)
      (motive := fun p r => ∃ n, (∀ i < n, l.GoesOn (l.iterated^[i] p))
        ∧ l.EndsAs (l.iterated^[n] p) r.1 r.2) ?_ p (q, e) h
    intro rec ih p r hr
    rcases goesOn_or_endsAs l p with hg | ⟨q', e', he⟩
    · rw [step_of_goesOn hg] at hr
      obtain ⟨n, hgo, hend⟩ := ih _ _ hr
      refine ⟨n + 1, ?_, hend⟩
      intro i hi
      cases i with
      | zero => exact hg
      | succ i => exact hgo i (by omega)
    · rw [step_of_endsAs he] at hr
      cases hr
      exact ⟨0, fun i hi => absurd hi (Nat.not_lt_zero i), he⟩
  · rintro ⟨n, hgo, hend⟩
    induction n generalizing p with
    | zero => exact runFrom_of_endsAs hend
    | succ n ih =>
      have hfirst : l.GoesOn p := hgo 0 (Nat.succ_pos n)
      rw [runFrom_of_goesOn hfirst]
      exact ih (fun i hi => hgo (i + 1) (by omega)) hend

/-- A run that is told to stop, or fails, after `n` completed iterations. -/
theorem run_of_endsAs {l : Loop Id σ α} {s : σ} {c n : Nat} {q : Progress σ α} {e : Ending}
    (hgo : ∀ i < n, l.GoesOn (l.iterated^[i] (begin s c)))
    (hend : l.EndsAs (l.iterated^[n] (begin s c)) q e) : l.run s c = (q, e) := by
  show (l.runFrom (begin s c)).getD _ = (q, e)
  rw [runFrom_eq_some_iff.mpr ⟨n, hgo, hend⟩]
  rfl

/-- No iteration does both. -/
theorem not_goesOn_of_endsAs {l : Loop Id σ α} {p q : Progress σ α} {e : Ending}
    (h : l.EndsAs p q e) : ¬ l.GoesOn p := by
  intro hg
  have hstep := step_of_goesOn hg
  rw [step_of_endsAs h] at hstep
  cases hstep

/-- Every run either never ends or ends after some number of completed iterations. -/
theorem run_cases (l : Loop Id σ α) (s : σ) (c : Nat) :
    (l.run s c = (begin s c, .failed .unfinished) ∧
        ∀ n, l.GoesOn (l.iterated^[n] (begin s c))) ∨
      ∃ n q e, l.run s c = (q, e) ∧ (∀ i < n, l.GoesOn (l.iterated^[i] (begin s c)))
        ∧ l.EndsAs (l.iterated^[n] (begin s c)) q e := by
  by_cases hall : ∀ n, l.GoesOn (l.iterated^[n] (begin s c))
  · have hnone : l.runFrom (begin s c) = none := by
      cases h : l.runFrom (begin s c) with
      | none => rfl
      | some r =>
        obtain ⟨n, -, hend⟩ := runFrom_eq_some_iff.mp h
        exact absurd (hall n) (not_goesOn_of_endsAs hend)
    refine Or.inl ⟨?_, hall⟩
    show (l.runFrom (begin s c)).getD _ = _
    rw [hnone]
    rfl
  · -- The first iteration that does not complete is where the run ends.
    have hex : ∃ n, ¬ l.GoesOn (l.iterated^[n] (begin s c)) := not_forall.mp hall
    classical
    have hgo : ∀ i < Nat.find hex, l.GoesOn (l.iterated^[i] (begin s c)) := fun i hi =>
      not_not.mp (Nat.find_min hex hi)
    rcases goesOn_or_endsAs l (l.iterated^[Nat.find hex] (begin s c)) with hg | ⟨q, e, hend⟩
    · exact absurd hg (Nat.find_spec hex)
    · exact Or.inr ⟨_, q, e, run_of_endsAs hgo hend, hgo, hend⟩

end Loop

end PoissonFactor
