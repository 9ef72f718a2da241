import PoissonFactor.Proofs.Outcome
import PoissonFactor.Proofs.Training.Finish

/-!
# A fit begins anew

A trainer may have been used before: phases taken one by one, entries overwritten,
evaluations recorded by hand, whole fits that ended or failed. A fit takes over none of
it but one number. It draws its start again, empties the record and asks its rule from
count zero, yet the number of the last completed iteration stays until an iteration
completes. That this number does no harm is an argument about all earlier fits:

> `Loop.run_completed`: a run that is begun with the number an equal run left behind
> is that run again,

because a run that leaves a number other than zero has completed its first iteration,
and then so does every other run from the same start. So the number never comes from
anywhere but a fit like the one to come (`Session.fitFrom_after`). Main result:

> `Session.fit_afresh`: behind any actions a fit is the fit of a new session, with the
> same answer or failure, and a session that it finishes in is left the same.
-/

namespace PoissonFactor

/-! ## The number that stays -/

namespace Loop

variable {σ α : Type} [Scalar α]

/-- The first completed iteration overwrites the number that stood before. -/
theorem iterated_begin (l : Loop Id σ α) (s : σ) (c c' : Nat) :
    l.iterated (begin s c) = l.iterated (begin s c') := by
  unfold iterated
  rfl

theorem GoesOn.begin_congr {l : Loop Id σ α} {s : σ} {c : Nat} (h : l.GoesOn (begin s c))
    (c' : Nat) : l.GoesOn (begin s c') :=
  ⟨h.asked, h.checked, h.finite⟩

theorem iterate_succ_begin (l : Loop Id σ α) (s : σ) (c c' n : Nat) :
    l.iterated^[n + 1] (begin s c) = l.iterated^[n + 1] (begin s c') := by
  rw [Function.iterate_succ_apply, Function.iterate_succ_apply, iterated_begin l s c c']

/-- A step that ends the run leaves the number as it finds it. -/
theorem EndsAs.completed_eq {l : Loop Id σ α} {p q : Progress σ α} {e : Ending}
    (h : l.EndsAs p q e) : q.completed = p.completed := by
  cases h <;> rfl

/-- **Running again from the number that a run left** is the same run. -/
theorem run_completed (l : Loop Id σ α) (s : σ) (c : Nat) :
    l.run s (l.run s c).1.completed = l.run s c := by
  rcases run_cases l s c with ⟨hrun, -⟩ | ⟨n, q, e, hrun, hgo, hend⟩
  · rw [hrun]
    exact hrun
  · rw [hrun]
    cases n with
    | zero =>
      -- Nothing was completed, so the number is still the one given.
      have hq : q.completed = c := hend.completed_eq
      show l.run s q.completed = (q, e)
      rw [hq, hrun]
    | succ n =>
      rw [iterate_succ_begin l s c q.completed] at hend
      refine run_of_endsAs (n := n + 1) (fun i hi => ?_) hend
      cases i with
      | zero => exact (hgo 0 hi).begin_congr q.completed
      | succ i =>
        rw [iterate_succ_begin l s q.completed c]
        exact hgo (i + 1) hi

end Loop

/-- A fit that is begun with the number an equal fit left behind is that fit again. -/
theorem Trainer.fitFrom_completed {α : Type} [Scalar α] {t : Trainer α} {b : Backend}
    {within : α → Number → Except Failure Bool} {draw : Nat → α} {c : Nat}
    {q : Progress t.Parameters α} {e : Ending} (h : t.fitFrom b within draw c = .ok (q, e)) :
    t.fitFrom b within draw q.completed = .ok (q, e) := by
  obtain ⟨s, hs, hrun⟩ := bind_eq_ok_iff.mp h
  have hrun : (t.loop b within).run s c = (q, e) := Except.ok.inj hrun
  have hagain := (t.loop b within).run_completed s c
  rw [hrun] at hagain
  exact bind_eq_ok_iff.mpr ⟨s, hs, congrArg Except.ok hagain⟩

/-! ## Behind any actions -/

namespace Session

variable {α : Type} [Scalar α] {t : Trainer α} {b : Backend}
  {within : α → Number → Except Failure Bool} {draw : Nat → α}

/-- The session behind some actions, the first of the list first. Those that fail count as
well. -/
def after (s : Session t) (b : Backend) (within : α → Number → Except Failure Bool)
    (draw : Nat → α) (actions : List (Action α)) : Session t :=
  actions.foldl (fun s action => (s.applyFrom b within draw action).1) s

/-- If the outcome is a session, its number of completed iterations is that of `s`. -/
def Keeps (s : Session t) (r : Except Failure (Session t × Answer α)) : Prop :=
  ∀ x, r = .ok x → x.1.completed = s.completed

theorem keeps_ok {s s' : Session t} (h : s'.completed = s.completed) (a : Answer α) :
    s.Keeps (.ok (s', a)) := by
  intro x hx
  cases hx
  exact h

theorem Keeps.bind {β : Type} {s : Session t} {x : Except Failure β}
    {f : β → Except Failure (Session t × Answer α)} (h : ∀ y, s.Keeps (f y)) :
    s.Keeps (x >>= f) := by
  intro r hr
  obtain ⟨y, -, hy⟩ := bind_eq_ok_iff.mp hr
  exact h y r hy

theorem keeps_phase (s : Session t) (name : String) (f : t.Parameters → t.Parameters) :
    s.Keeps (s.phase name f) :=
  .bind fun _ => keeps_ok rfl _

theorem Keeps.attempt {s : Session t} {r : Except Failure (Session t × Answer α)}
    (h : s.Keeps r) : (s.attempt r).1.completed = s.completed := by
  cases r with
  | error cause => rfl
  | ok x => exact h x rfl

/-- Only a fit changes the number of the last completed iteration. -/
theorem applyFrom_completed (s : Session t) {action : Action α} (h : action ≠ .fit) :
    (s.applyFrom b within draw action).1.completed = s.completed := by
  cases action with
  | start => exact Keeps.attempt (.bind fun _ => keeps_ok rfl _)
  | count =>
    refine Keeps.attempt ?_
    split
    · exact keeps_phase s _ _
    · exact keeps_ok rfl _
  | renewUsers => exact (keeps_phase s _ _).attempt
  | renewItems => exact (keeps_phase s _ _).attempt
  | fixActivity => exact (keeps_phase s _ _).attempt
  | check phase => exact Keeps.attempt (.bind fun _ => .bind fun _ => keeps_ok rfl _)
  | likelihood => exact Keeps.attempt (.bind fun _ => keeps_ok rfl _)
  | means => exact Keeps.attempt (.bind fun _ => keeps_ok rfl _)
  | record iteration current previous => exact Keeps.attempt (.bind fun _ => keeps_ok rfl _)
  | put array index x => exact Keeps.attempt (.bind fun _ => .bind fun _ => keeps_ok rfl _)
  | fit => exact absurd rfl h

/-- An action leaves the fit to come as it is. -/
theorem fitFrom_applyFrom (s : Session t) (action : Action α) :
    t.fitFrom b within draw (s.applyFrom b within draw action).1.completed
      = t.fitFrom b within draw s.completed := by
  by_cases haction : action = .fit
  · subst haction
    show t.fitFrom b within draw (s.conclude (t.fitFrom b within draw s.completed)).1.completed = _
    cases hfit : t.fitFrom b within draw s.completed with
    | error cause => exact hfit
    | ok r =>
      -- However it ended, the number it left is that of its progress.
      obtain ⟨q, e⟩ := r
      cases e with
      | finished => exact Trainer.fitFrom_completed hfit
      | failed cause => exact Trainer.fitFrom_completed hfit
  · rw [applyFrom_completed s haction]

/-- So do any actions. -/
theorem fitFrom_after (s : Session t) (actions : List (Action α)) :
    t.fitFrom b within draw (s.after b within draw actions).completed
      = t.fitFrom b within draw s.completed := by
  induction actions generalizing s with
  | nil => rfl
  | cons action rest ih => exact (ih _).trans (fitFrom_applyFrom s action)

/-- What a finished fit leaves does not depend on the session it was taken in, and neither does
what any fit answers. -/
theorem conclude_congr (s s' : Session t)
    (r : Except Failure (Progress t.Parameters α × Ending)) :
    (s.conclude r).2 = (s'.conclude r).2
      ∧ ∀ answer, (s'.conclude r).2 = .ok answer → (s.conclude r).1 = (s'.conclude r).1 := by
  cases r with
  | error cause => exact ⟨rfl, fun answer h => nomatch h⟩
  | ok r =>
    obtain ⟨q, e⟩ := r
    cases e with
    | finished => exact ⟨rfl, fun _ _ => rfl⟩
    | failed cause => exact ⟨rfl, fun answer h => nomatch h⟩

/-- **A fit begins anew.** Take a new session through any actions, in any order: starts, phases,
checks, evaluations, entries overwritten with any values, evaluations recorded by hand, and
other fits, whether they succeed or fail. A fit behind them runs exactly as in a new session:
it has the same progress (parameters, from which the model is made, record and number of
iterations) and the same ending. It gives the same answer or failure, and if it gives an answer,
it leaves the same session. -/
theorem fit_afresh (t : Trainer α) (b : Backend) (within : α → Number → Except Failure Bool)
    (draw : Nat → α) (actions : List (Action α)) :
    let used := (Session.new : Session t).after b within draw actions
    let fresh := (Session.new : Session t).applyFrom b within draw .fit
    t.fitFrom b within draw used.completed = t.fitFrom b within draw 0
      ∧ (used.applyFrom b within draw .fit).2 = fresh.2
      ∧ ∀ answer, fresh.2 = .ok answer → (used.applyFrom b within draw .fit).1 = fresh.1 := by
  intro used fresh
  have hfit : t.fitFrom b within draw used.completed = t.fitFrom b within draw 0 :=
    fitFrom_after Session.new actions
  have hused : used.applyFrom b within draw .fit = used.conclude (t.fitFrom b within draw 0) :=
    congrArg used.conclude hfit
  obtain ⟨hanswer, hsession⟩ := conclude_congr used .new (t.fitFrom b within draw 0)
  refine ⟨hfit, ?_, fun answer h => ?_⟩
  · rw [hused]
    exact hanswer
  · rw [hused]
    exact hsession answer h

/-- A fit, a rate overwritten with a number below zero, an evaluation recorded by hand, a phase, a
check that fails, and a fit again. -/
theorem fit_afresh_sample :
    letI : SpecialFunctions := .gamma
    let used := (Session.new : Session Trainer.sample).after .rows (fun _ _ => .ok false)
      (fun _ => 1 / 2) [.fit, .put (.checked .gammaRate) [0, -1] (-1), .record 7 0 1, .count,
        .check "again"]
    let fresh := (Session.new : Session Trainer.sample).applyFrom .rows (fun _ _ => .ok false)
      (fun _ => 1 / 2) .fit
    ∃ answer, fresh.2 = .ok answer
      ∧ (used.applyFrom .rows (fun _ _ => .ok false) (fun _ => 1 / 2) .fit).2 = .ok answer
      ∧ (used.applyFrom .rows (fun _ _ => .ok false) (fun _ => 1 / 2) .fit).1 = fresh.1 := by
  let _ : SpecialFunctions := .gamma
  intro used fresh
  have hdraw : ∀ i, 0 ≤ (fun _ : Nat => (1 / 2 : ℝ)) i := fun _ => by norm_num
  have hcaps : Trainer.sample.rule.Caps (fun _ _ => .ok false) 2 :=
    StoppingRule.iterations_caps zero_le_two
  obtain ⟨q, hfit, -⟩ := Trainer.exists_finished Trainer.sample_proper le_rfl hdraw hcaps .rows
  have hfresh : fresh.2 = .ok (.fitted q.completed q.history) :=
    congrArg (fun r => ((Session.new : Session Trainer.sample).conclude r).2) hfit
  obtain ⟨-, hanswer, hsession⟩ := fit_afresh Trainer.sample .rows (fun _ _ => .ok false)
    (fun _ => 1 / 2) [.fit, .put (.checked .gammaRate) [0, -1] (-1), .record 7 0 1, .count,
      .check "again"]
  exact ⟨_, hfresh, hanswer.trans hfresh, hsession _ hfresh⟩

end Session

end PoissonFactor
