import PoissonFactor.Proofs.Model.Phases
import PoissonFactor.Proofs.Model.Real
import PoissonFactor.Proofs.Training.Steps
import PoissonFactor.Training.Trainer

/-!
# A fit as a sequence of phases

A fit is a checked start and a run of the trainer's loop. `Trainer.Completes` says
that a fit completes `n` iterations, and with which progress.

> `Trainer.completes_succ_iff`: one more iteration is completed exactly when nothing
> stands in its way.

> `Trainer.Completes.state`: the state behind `n` iterations is the one that their
> phases reach from the drawn start.

> `Trainer.fitFrom_cases`: a fit completes iterations without end, or ends behind so
> many of them.

So what holds for phases in any order holds along every fit.
-/

namespace PoissonFactor

namespace Trainer

variable {α : Type} [Scalar α]

theorem nextState_loop (t : Trainer α) (b : Backend) (within : α → Number → Except Failure Bool)
    (n : Nat) (s : t.Parameters) :
    (t.loop b within).nextState n s = (b.engine t.problem).performAll (iterationPhases n) s := by
  unfold Loop.nextState Loop.finish iterationPhases
  by_cases h : n = 0
  · rw [if_pos h, if_pos h]
    rfl
  · rw [if_neg h, if_neg h]
    rfl

/-- A fit is a checked start and a run of the loop from it. -/
theorem fitFrom_eq (t : Trainer α) (b : Backend) (within : α → Number → Except Failure Bool)
    (draw : Nat → α) (c : Nat) :
    t.fitFrom b within draw c = (t.start? draw).map fun s => (t.loop b within).run s c := by
  unfold fitFrom fitWith
  cases t.start? draw with
  | error cause => rfl
  | ok s => rfl

/-- The start of a fit is the drawn state, if that passes its check. -/
theorem start?_eq_ok_iff (t : Trainer α) (draw : Nat → α) (s : t.Parameters) :
    t.start? draw = .ok s ↔
      s = .start t.problem draw t.features ∧ s.check "initialization" = .ok () := by
  show ((State.start t.problem draw t.features).check "initialization" >>= fun _ =>
    pure (State.start t.problem draw t.features)) = Except.ok s ↔ _
  cases h : (State.start t.problem draw t.features).check "initialization" with
  | error cause =>
    constructor
    · intro hs
      cases hs
    · rintro ⟨rfl, hc⟩
      rw [h] at hc
      cases hc
  | ok u =>
    constructor
    · intro hs
      cases hs
      exact ⟨rfl, h⟩
    · rintro ⟨rfl, -⟩
      rfl

/-- The state that a sequence of phases reaches from the drawn start. -/
def reached (t : Trainer α) (b : Backend) (draw : Nat → α) (phases : List Phase) :
    t.Parameters :=
  (b.engine t.problem).performAll phases (.start t.problem draw t.features)

/-! ## The iterations of a fit -/

variable {t : Trainer α} {b : Backend} {within : α → Number → Except Failure Bool}
  {draw : Nat → α} {c n : Nat} {p q : Progress t.Parameters α}

/-- A fit completes `n` iterations, and `q` is its progress then. -/
def Completes (t : Trainer α) (b : Backend) (within : α → Number → Except Failure Bool)
    (draw : Nat → α) (c n : Nat) (q : Progress t.Parameters α) : Prop :=
  ∃ s, t.start? draw = .ok s
    ∧ Id.run ((t.loop b within).steps n (Loop.begin s c)) = (q, none)

theorem completes_zero_iff :
    t.Completes b within draw c 0 q ↔ ∃ s, t.start? draw = .ok s ∧ q = Loop.begin s c := by
  constructor
  · rintro ⟨s, hs, hq⟩
    exact ⟨s, hs, (Loop.steps_eq_none_iff.mp hq).2⟩
  · rintro ⟨s, hs, rfl⟩
    exact ⟨s, hs, rfl⟩

/-- One more iteration is completed exactly when nothing stands in its way. -/
theorem completes_succ_iff :
    t.Completes b within draw c (n + 1) q ↔
      ∃ p, t.Completes b within draw c n p ∧ (t.loop b within).GoesOn p
        ∧ q = (t.loop b within).iterated p := by
  constructor
  · rintro ⟨s, hs, hq⟩
    obtain ⟨hgo, rfl⟩ := Loop.steps_eq_none_iff.mp hq
    refine ⟨_, ⟨s, hs, Loop.steps_eq_none_iff.mpr ⟨fun i hi => hgo i (by omega), rfl⟩⟩,
      hgo n (Nat.lt_succ_self n), Function.iterate_succ_apply' _ _ _⟩
  · rintro ⟨p, ⟨s, hs, hp⟩, hg, rfl⟩
    obtain ⟨hgo, rfl⟩ := Loop.steps_eq_none_iff.mp hp
    refine ⟨s, hs, Loop.steps_eq_none_iff.mpr ⟨fun i hi => ?_, ?_⟩⟩
    · rcases Nat.lt_succ_iff_lt_or_eq.mp hi with h | rfl
      · exact hgo i h
      · exact hg
    · exact (Function.iterate_succ_apply' _ _ _).symm

theorem Completes.begun (h : t.Completes b within draw c n q) : q.begun = n := by
  induction n generalizing q with
  | zero =>
    obtain ⟨s, -, rfl⟩ := completes_zero_iff.mp h
    rfl
  | succ n ih =>
    obtain ⟨p, hp, -, rfl⟩ := completes_succ_iff.mp h
    rw [Loop.iterated_begun, ih hp]

/-- The state behind `n` iterations is the one that their phases reach. -/
theorem Completes.state (h : t.Completes b within draw c n q) :
    q.state = t.reached b draw (fitPhases n) := by
  induction n generalizing q with
  | zero =>
    obtain ⟨s, hs, rfl⟩ := completes_zero_iff.mp h
    exact ((start?_eq_ok_iff t draw s).mp hs).1
  | succ n ih =>
    obtain ⟨p, hp, -, rfl⟩ := completes_succ_iff.mp h
    rw [Loop.iterated_state, nextState_loop, hp.begun, ih hp]
    unfold reached
    rw [fitPhases_succ, Engine.performAll_append]

/-- A fit whose start passes its check completes iterations without end, or ends behind so many
of them. -/
theorem fitFrom_cases (b : Backend) (within : α → Number → Except Failure Bool) (c : Nat)
    {s : t.Parameters} (hs : t.start? draw = .ok s) :
    (t.fitFrom b within draw c = .ok (Loop.begin s c, .failed .unfinished) ∧
        ∀ n, ∃ p, t.Completes b within draw c n p) ∨
      ∃ n p q e, t.fitFrom b within draw c = .ok (q, e) ∧ t.Completes b within draw c n p
        ∧ (t.loop b within).EndsAs p q e := by
  have hfit : t.fitFrom b within draw c = .ok ((t.loop b within).run s c) := by
    rw [fitFrom_eq, hs]
    rfl
  rw [hfit]
  rcases Loop.run_cases (t.loop b within) s c with ⟨hrun, hall⟩ | ⟨n, q, e, hrun, hgo, hend⟩
  · refine Or.inl ⟨congrArg Except.ok hrun, fun n => ?_⟩
    exact ⟨_, s, hs, Loop.steps_eq_none_iff.mpr ⟨fun i _ => hall i, rfl⟩⟩
  · exact Or.inr ⟨n, _, q, e, congrArg Except.ok hrun,
      ⟨s, hs, Loop.steps_eq_none_iff.mpr ⟨hgo, rfl⟩⟩, hend⟩

/-- What a finished fit gives is its progress behind its last iteration. -/
theorem completes_of_finished (h : t.fitFrom b within draw c = .ok (q, .finished)) :
    t.Completes b within draw c q.begun q := by
  cases hs : t.start? draw with
  | error cause =>
    rw [fitFrom_eq, hs] at h
    cases h
  | ok s =>
    rcases fitFrom_cases b within c hs with
      ⟨hnever, -⟩ | ⟨n, p, q', e, hrun, hp, hend⟩
    · rw [hnever] at h
      cases h
    · rw [hrun] at h
      cases h
      cases hend with
      | told ha =>
        rw [hp.begun]
        exact hp

/-! ## A small one -/

/-- Two users rate one item, one of them below zero, and there are two features. -/
noncomputable def sample : Trainer ℝ where
  userIndex := .dense 2
  itemIndex := .dense 1
  features := 2
  problem :=
    let first : Observation ℝ (KeyIndex.dense 2).size (KeyIndex.dense 1).size :=
      { user := ⟨0, by simp⟩, item := ⟨0, by simp⟩, value := 3 }
    { userPrior := { shape := 1, activityShape := 1, activityRate := 1 }
      itemPrior := { shape := 1, activityShape := 1, activityRate := 1 }
      offsetShape := 0
      offsetRate := 0
      train := [first, { first with user := ⟨1, by simp⟩, value := -1 }]
      validation := [first]
      hits := true }
  frequency := 1
  seed := 0
  verbose := false
  rule := .iterations (.int 2)

end Trainer

end PoissonFactor
