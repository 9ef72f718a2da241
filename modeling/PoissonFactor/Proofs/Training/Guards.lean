import PoissonFactor.Proofs.Training.Safety
import PoissonFactor.Proofs.Training.Trace
import PoissonFactor.Training.Session

/-!
# What a failing fit leaves behind

The phases of a fit may go wrong: a shape may become zero, a rate infinite, a value
no number. This file takes them as arbitrary functions, any `Engine`, and asks what
the guards of the loop make of that. An iteration that was begun either passes, or it
breaks off at its check or at its evaluation (`Loop.passes_or_breaks`), and a run
ends at the first iteration that does:

> `Loop.run_of_breaks`: the record of such a run is that of the iterations before, and
> it has called for nothing since.

> `Loop.run_guarded`: a run finishes, breaks off, or passes every guard and is never
> told to stop.

With the check of a fit the cause names the first parameter, in the order of checking,
that has an entry not finite or not above zero (`State.check_eq_error_iff`). Main
result:

> `Trainer.fit_guarded`: a fit gives a model only behind guards that all passed, and
> a fit that fails says where, and keeps the record up to there.
-/

namespace PoissonFactor

/-! ## Runs that break off -/

namespace Loop

variable {σ α : Type} [Scalar α] {l : Loop Id σ α} {s : σ} {c n : Nat}

/-- Iteration `n + 1`, once begun, passes its guards. -/
structure Passes (l : Loop Id σ α) (s : σ) (n : Nat) : Prop where
  checked : l.check (phaseName n) (l.advance (l.stateAt s n)) = .ok ()
  finite : (n + 1) % l.frequency = 0 → Scalar.isFinite (l.value (l.stateAt s (n + 1))) = true

/-- Iteration `n + 1`, once begun, breaks off, at its check or at its evaluation. The list holds
the calls that it makes until then. -/
inductive Breaks (l : Loop Id σ α) (s : σ) (n : Nat) : Failure → List (Call σ α) → Prop where
  | check {cause : Failure} :
    l.check (phaseName n) (l.advance (l.stateAt s n)) = .error cause → Breaks l s n cause []
  | value :
    l.check (phaseName n) (l.advance (l.stateAt s n)) = .ok () →
    (n + 1) % l.frequency = 0 →
    Scalar.isFinite (l.value (l.stateAt s (n + 1))) = false →
    Breaks l s n (.likelihoodNotFinite (toString (n + 1))) [.evaluated (l.stateAt s (n + 1))]

/-- A run from `s` begins iteration `n + 1`: the iterations before pass, and at no count up to `n`
the rule says stop. -/
structure Begins (l : Loop Id σ α) (s : σ) (n : Nat) : Prop where
  goes : ∀ j ≤ n, l.answer j (l.changeAt s j) = .ok false
  passes : ∀ j < n, l.Passes s j

/-- An iteration that was begun passes or breaks off. -/
theorem passes_or_breaks (l : Loop Id σ α) (s : σ) (n : Nat) :
    l.Passes s n ∨ ∃ cause calls, l.Breaks s n cause calls := by
  cases hc : l.check (phaseName n) (l.advance (l.stateAt s n)) with
  | error cause => exact Or.inr ⟨cause, [], .check hc⟩
  | ok u =>
    by_cases hm : (n + 1) % l.frequency = 0
    · cases hv : Scalar.isFinite (l.value (l.stateAt s (n + 1))) with
      | true => exact Or.inl ⟨hc, fun _ => hv⟩
      | false => exact Or.inr ⟨_, _, .value hc hm hv⟩
    · exact Or.inl ⟨hc, fun h => absurd h hm⟩

theorem Begins.goesOn (h : l.Begins s n) (c : Nat) {j : Nat} (hj : j < n) :
    l.GoesOn (l.progressAt s c j) :=
  goesOn_progressAt.mpr
    ⟨h.goes j (Nat.le_of_lt hj), (h.passes j hj).checked, (h.passes j hj).finite⟩

/-- A run that completes nothing leaves the number of completed iterations at zero. -/
theorem completed_progressAt_zero (l : Loop Id σ α) (s : σ) (n : Nat) :
    (l.progressAt s 0 n).completed = n := by
  unfold progressAt
  split
  next h => exact h.symm
  next => rfl

/-- The evaluations of iterations that pass are finite. -/
theorem Begins.finite (h : l.Begins s n) (hf : 1 ≤ l.frequency) :
    ∀ e ∈ l.historyAt s n, Scalar.isFinite e.likelihood = true := by
  intro e he
  obtain ⟨m, hm, rfl⟩ := List.mem_map.mp he
  exact (finite_iff hf s n).mpr (fun j hj => (h.passes j hj).finite) m (List.mem_range.mp hm)

/-- An iteration that breaks off ends the run. -/
theorem endsAs_of_breaks (ha : l.answer n (l.changeAt s n) = .ok false) {cause : Failure}
    {calls : List (Call σ α)} (hb : l.Breaks s n cause calls) (c : Nat) :
    ∃ x, l.EndsAs (l.progressAt s c n) ((l.progressAt s c n).enter x) (.failed cause) := by
  cases hb with
  | check hc => exact ⟨_, .checkFailed ha hc⟩
  | value hc hm hv => exact ⟨_, .notFinite ha hc hm hv⟩

/-- The calls of an iteration that breaks off. -/
theorem callsOf_of_breaks (ha : l.answer n (l.changeAt s n) = .ok false) {cause : Failure}
    {calls : List (Call σ α)} (hb : l.Breaks s n cause calls) (c : Nat) :
    l.callsOf (l.progressAt s c n) = .asked n (l.changeAt s n) :: calls := by
  have ha' : l.answer (l.progressAt s c n).begun (l.progressAt s c n).change = .ok false := ha
  unfold callsOf
  rw [ha']
  cases hb with
  | check hc =>
    have hc' : l.check (phaseName (l.progressAt s c n).begun)
        (l.advance (l.progressAt s c n).state) = .error cause := hc
    rw [hc']
    rfl
  | value hc hm hv =>
    have hc' : l.check (phaseName (l.progressAt s c n).begun)
        (l.advance (l.progressAt s c n).state) = .ok () := hc
    rw [hc']
    exact congrArg (_ :: ·) (if_pos hm)

/-- **A run ends where an iteration breaks off.** Its record is that of the iterations before,
and however many steps there were to come, it makes no call behind the last one of this
iteration. -/
theorem run_of_breaks (hf : 1 ≤ l.frequency) (h : l.Begins s n) {cause : Failure}
    {calls : List (Call σ α)} (hb : l.Breaks s n cause calls) (c : Nat) :
    ∃ x, l.run s c = ((l.progressAt s c n).enter x, .failed cause)
      ∧ ∀ r, Id.run ((l.logged.steps (n + 1 + r) (begin s c)).run [])
          = (((l.progressAt s c n).enter x, some (.failed cause)), l.callsUpTo s n ++ calls) := by
  have hgo : ∀ j < n, l.GoesOn (l.progressAt s c j) := fun j hj => h.goesOn c hj
  have ha : l.answer n (l.changeAt s n) = .ok false := h.goes n (Nat.le_refl n)
  obtain ⟨x, hend⟩ := endsAs_of_breaks ha hb c
  refine ⟨x, ?_, fun r => ?_⟩
  · refine run_of_endsAs (n := n) (fun j hj => ?_) ?_
    · rw [iterate_begin l hf]
      exact hgo j hj
    · rw [iterate_begin l hf]
      exact hend
  · have hsteps : n + 1 + r = n + (r + 1) := by omega
    rw [← progressAt_zero l hf s c, hsteps, logged_steps_progressAt hgo,
      logged_steps_of_endsAs hend, callsOf_of_breaks ha hb]
    unfold callsUpTo
    rw [List.append_assoc]
    congr 2
    exact List.flatMap_congr fun j hj => callsOf_of_goesOn (hgo j (List.mem_range.mp hj))

/-- Under a rule that always answers, a run finishes, or an iteration breaks off, or every
iteration passes and the rule never says stop. -/
theorem run_guarded (hf : 1 ≤ l.frequency) (hrule : ∀ n x, ∃ b, l.answer n x = .ok b) (s : σ)
    (c : Nat) :
    (∃ n, l.FinishesAt s n ∧ l.run s c = (l.progressAt s c n, .finished))
      ∨ (∃ n cause calls, l.Begins s n ∧ l.Breaks s n cause calls)
      ∨ (∀ n, l.Begins s n) ∧ l.run s c = (begin s c, .failed .unfinished) := by
  rcases run_cases l s c with ⟨hnever, hall⟩ | ⟨n, q, e, hrun, hgo, hend⟩
  · have hgo : ∀ n, l.GoesOn (l.progressAt s c n) := fun n => by
      rw [← iterate_begin l hf]
      exact hall n
    exact Or.inr (Or.inr ⟨fun n => ⟨fun j _ => (hgo j).asked, fun j _ =>
      ⟨(hgo j).checked, (hgo j).finite⟩⟩, hnever⟩)
  · have hgo' : ∀ j < n, l.GoesOn (l.progressAt s c j) := fun j hj => by
      rw [← iterate_begin l hf]
      exact hgo j hj
    rw [iterate_begin l hf] at hend
    by_cases hstop : l.answer n (l.changeAt s n) = .ok true
    · have hfinish : l.FinishesAt s n :=
        { goes := fun j hj => (hgo' j hj).asked
          stops := hstop
          checked := fun j hj => (hgo' j hj).checked
          finite := (finite_iff hf s n).mpr fun j hj => (hgo' j hj).finite }
      exact Or.inl ⟨n, hfinish, (run_eq_finished_iff hf).mpr ⟨n, hfinish, rfl⟩⟩
    · -- Not told to stop, the run ends because iteration `n + 1` does not pass.
      obtain ⟨b, hb⟩ := hrule n (l.changeAt s n)
      have ha : l.answer n (l.changeAt s n) = .ok false := by
        cases b with
        | true => exact absurd hb hstop
        | false => exact hb
      have hbegins : l.Begins s n := by
        refine ⟨fun j hj => ?_, fun j hj => ⟨(hgo' j hj).checked, (hgo' j hj).finite⟩⟩
        rcases Nat.lt_or_eq_of_le hj with hlt | rfl
        · exact (hgo' j hlt).asked
        · exact ha
      rcases passes_or_breaks l s n with hp | ⟨cause, calls, hbreaks⟩
      · exact absurd (goesOn_progressAt.mpr ⟨ha, hp.checked, hp.finite⟩)
          (not_goesOn_of_endsAs hend)
      · exact Or.inr (Or.inl ⟨n, cause, calls, hbegins, hbreaks⟩)

end Loop

/-! ## The check of a fit -/

namespace State

variable {α : Type} [Scalar α] {users items k : Nat}

/-- Every entry of the checked parameters is finite and above zero. -/
def Kept (s : State α users items k) : Prop :=
  ∀ p : Parameter, ∀ x ∈ s.parameter p, Scalar.isPositive x = true

/-- The parameter is the first, in the order of checking, with an entry that is not. -/
def LeavesAt (s : State α users items k) (p : Parameter) : Prop :=
  (∃ x ∈ s.parameter p, Scalar.isPositive x = false)
    ∧ ∃ before after, Parameter.all = before ++ p :: after
      ∧ ∀ q ∈ before, ∀ x ∈ s.parameter q, Scalar.isPositive x = true

theorem check_eq_ok_iff_kept (phase : String) (s : State α users items k) :
    s.check phase = .ok () ↔ s.Kept := by
  rw [check_eq_ok_iff]
  unfold keeps Kept
  simp only [List.all_eq_true]
  constructor
  · intro h p
    exact h p (by cases p <;> decide)
  · intro h p _
    exact h p

/-- A check fails exactly when a parameter is left, and names the first one. -/
theorem check_eq_error_iff (phase : String) (s : State α users items k) (cause : Failure) :
    s.check phase = .error cause ↔ ∃ p, s.LeavesAt p ∧ cause = .leftPositive p phase := by
  have hfind : ∀ p, (Parameter.all.find? fun p => !s.keeps p) = some p ↔ s.LeavesAt p := by
    intro p
    rw [List.find?_eq_some_iff_append]
    unfold LeavesAt keeps
    simp only [Bool.not_eq_true', Bool.not_not, List.all_eq_false, List.all_eq_true,
      Bool.not_eq_true]
  unfold check
  cases hx : Parameter.all.find? fun p => !s.keeps p with
  | none =>
    constructor
    · intro h
      cases h
    · rintro ⟨p, hp, -⟩
      rw [(hfind p).mpr hp] at hx
      cases hx
  | some p =>
    constructor
    · intro h
      cases h
      exact ⟨p, (hfind p).mp hx, rfl⟩
    · rintro ⟨q, hq, rfl⟩
      rw [(hfind q).mpr hq] at hx
      cases hx
      rfl

/-- A state is kept, or some parameter is the first that is left. -/
theorem kept_or_leavesAt (s : State α users items k) : s.Kept ∨ ∃ p, s.LeavesAt p := by
  cases h : s.check "" with
  | ok u => exact Or.inl ((check_eq_ok_iff_kept "" s).mp h)
  | error cause =>
    obtain ⟨p, hp, -⟩ := (check_eq_error_iff "" s cause).mp h
    exact Or.inr ⟨p, hp⟩

end State

/-! ## Fits with arbitrary phases -/

namespace Trainer

variable {α : Type} [Scalar α]

/-- What is known of a trainer, fresh before, whose fit failed behind `n` completed iterations. -/
structure FailsBehind (t : Trainer α) (e : Engine α t.userIndex.size t.itemIndex.size t.features)
    (within : α → Number → Except Failure Bool) (draw : Nat → α) (n : Nat) (cause : Failure)
    (calls : List (Loop.Call t.Parameters α)) : Prop where
  answer : ((Session.new : Session t).conclude (t.fitWith e within draw 0)).2 = .error cause
  family : cause.family = .instability
  completed : ((Session.new : Session t).conclude (t.fitWith e within draw 0)).1.completed = n
  /-- The record holds the evaluations at the multiples of the frequency up to `n` … -/
  history : ((Session.new : Session t).conclude (t.fitWith e within draw 0)).1.history
    = (t.loopWith e within).historyAt (.start t.problem draw t.features) n
  /-- … which are all finite. -/
  finite : ∀ x ∈ (t.loopWith e within).historyAt (.start t.problem draw t.features) n,
    Scalar.isFinite x.likelihood = true
  /-- However many steps were to come, these are the only questions and evaluations. -/
  calls : ∀ r, (Id.run (((t.loopWith e within).logged.steps (n + 1 + r)
    (Loop.begin (.start t.problem draw t.features) 0)).run [])).2 = calls

section

variable {t : Trainer α} {e : Engine α t.userIndex.size t.itemIndex.size t.features}
  {within : α → Number → Except Failure Bool} {draw : Nat → α} {n : Nat}

theorem start?_of_kept (h : (State.start t.problem draw t.features).Kept) :
    t.start? draw = .ok (.start t.problem draw t.features) :=
  (start?_eq_ok_iff t draw _).mpr ⟨rfl, (State.check_eq_ok_iff_kept _ _).mpr h⟩

variable (e within) in
theorem fitWith_of_kept (h : (State.start t.problem draw t.features).Kept) (c : Nat) :
    t.fitWith e within draw c
      = .ok ((t.loopWith e within).run (.start t.problem draw t.features) c) := by
  unfold fitWith
  rw [start?_of_kept h]
  rfl

/-- A start that leaves the positive numbers ends the fit before its loop. -/
theorem fitWith_of_leavesAt {p : Parameter}
    (h : (State.start t.problem draw t.features).LeavesAt p) (c : Nat) :
    t.fitWith e within draw c = .error (.leftPositive p "initialization") := by
  have hcheck : (State.start t.problem draw t.features).check "initialization"
      = .error (.leftPositive p "initialization") :=
    (State.check_eq_error_iff _ _ _).mpr ⟨p, h, rfl⟩
  unfold fitWith start?
  dsimp only
  rw [hcheck]
  rfl

/-- The check of an iteration, told apart by the parameters. -/
theorem checked_iff (hcheck : e.check = State.check) (s : t.Parameters) (n : Nat) :
    (t.loopWith e within).check (Loop.phaseName n)
        ((t.loopWith e within).advance ((t.loopWith e within).stateAt s n)) = .ok ()
      ↔ (e.iterate ((t.loopWith e within).stateAt s n)).Kept := by
  rw [← State.check_eq_ok_iff_kept (Loop.phaseName n), ← hcheck]
  rfl

theorem notChecked_iff (hcheck : e.check = State.check) (s : t.Parameters) (n : Nat)
    (cause : Failure) :
    (t.loopWith e within).check (Loop.phaseName n)
        ((t.loopWith e within).advance ((t.loopWith e within).stateAt s n)) = .error cause
      ↔ ∃ p, (e.iterate ((t.loopWith e within).stateAt s n)).LeavesAt p
        ∧ cause = .leftPositive p (Loop.phaseName n) := by
  rw [← State.check_eq_error_iff (Loop.phaseName n), ← hcheck]
  rfl

/-- An iteration that breaks off is where the fit fails. -/
theorem failsBehind_of_breaks (hcheck : e.check = State.check) (hf : 1 ≤ t.frequency)
    (hs : (State.start t.problem draw t.features).Kept)
    (hn : (t.loopWith e within).Begins (.start t.problem draw t.features) n) {cause : Failure}
    {calls : List (Loop.Call t.Parameters α)}
    (hb : (t.loopWith e within).Breaks (.start t.problem draw t.features) n cause calls) :
    t.FailsBehind e within draw n cause
      ((t.loopWith e within).callsUpTo (.start t.problem draw t.features) n ++ calls) := by
  obtain ⟨x, hrun, hlogged⟩ := Loop.run_of_breaks hf hn hb 0
  have hfit := (fitWith_of_kept e within hs 0).trans (congrArg Except.ok hrun)
  refine ⟨?_, ?_, ?_, ?_, hn.finite hf, fun r => ?_⟩
  · rw [hfit]
    rfl
  · cases hb with
    | check h =>
      obtain ⟨p, -, rfl⟩ := (notChecked_iff hcheck _ n _).mp h
      rfl
    | value => rfl
  · rw [hfit]
    exact (t.loopWith e within).completed_progressAt_zero (.start t.problem draw t.features) n
  · rw [hfit]
    rfl
  · rw [hlogged r]

variable (e within) in
/-- How the fit of a kept start ends: it finishes, or an iteration breaks off, or its rule never
says stop. -/
theorem conclude_cases (hcheck : e.check = State.check) (hf : 1 ≤ t.frequency)
    (hrule : ∀ n x, ∃ b, t.rule.stops within n x = .ok b)
    (hs : (State.start t.problem draw t.features).Kept) :
    (∃ n, (t.loopWith e within).FinishesAt (.start t.problem draw t.features) n
        ∧ (Session.new : Session t).conclude (t.fitWith e within draw 0)
          = (⟨some ((t.loopWith e within).stateAt (.start t.problem draw t.features) n),
              (t.loopWith e within).historyAt (.start t.problem draw t.features) n, n⟩,
            .ok (.fitted n ((t.loopWith e within).historyAt (.start t.problem draw t.features) n))))
      ∨ (∃ n cause calls, (t.loopWith e within).Begins (.start t.problem draw t.features) n
          ∧ (t.loopWith e within).Breaks (.start t.problem draw t.features) n cause calls
          ∧ t.FailsBehind e within draw n cause
              ((t.loopWith e within).callsUpTo (.start t.problem draw t.features) n ++ calls))
      ∨ (∀ n, (t.loopWith e within).Begins (.start t.problem draw t.features) n)
          ∧ ((Session.new : Session t).conclude (t.fitWith e within draw 0)).2
            = .error .unfinished := by
  have hfit := fitWith_of_kept e within hs 0
  rcases Loop.run_guarded (l := t.loopWith e within) hf hrule _ 0 with
    ⟨n, hfinish, hrun⟩ | ⟨n, cause, calls, hbegins, hbreaks⟩ | ⟨hall, hrun⟩
  · refine Or.inl ⟨n, hfinish, ?_⟩
    rw [hfit, hrun]
    simp only [Session.conclude, Loop.completed_progressAt_zero]
    rfl
  · exact Or.inr (Or.inl ⟨n, cause, calls, hbegins, hbreaks,
      failsBehind_of_breaks hcheck hf hs hbegins hbreaks⟩)
  · refine Or.inr (Or.inr ⟨hall, ?_⟩)
    rw [hfit, hrun]
    rfl

end

/-- **What the guards of a fit guarantee.** The phases and the evaluation are arbitrary; the check
is that of the eight parameters, and the rule some function of count and change. On a fresh
trainer:

* a start that leaves the positive numbers is reported with its first such parameter, and
  nothing is recorded;
* if iteration `n + 1` is begun and its phases leave the positive numbers, this is reported
  with the first such parameter, and if they do not but the evaluation it makes is not finite,
  that is; either way `n` iterations count as completed, the evaluations at the multiples of the
  frequency up to `n` are the record, all of them finite, and nothing was called for since;
* a model is given only if the start and every iteration passed, at the first count where the
  rule says stop;
* there is no other way to fail, except for a rule that never says stop. -/
theorem fit_guarded (t : Trainer α)
    (e : Engine α t.userIndex.size t.itemIndex.size t.features) (hcheck : e.check = State.check)
    (hf : 1 ≤ t.frequency) (within : α → Number → Except Failure Bool) (stop : Nat → α → Bool)
    (hstop : ∀ n x, t.rule.stops within n x = .ok (stop n x)) (draw : Nat → α) :
    let s : t.Parameters := .start t.problem draw t.features
    let l := t.loopWith e within
    let fitted := (Session.new : Session t).conclude (t.fitWith e within draw 0)
    (∀ p, State.LeavesAt s p → fitted = (.new, .error (.leftPositive p "initialization")))
      ∧ (∀ n, s.Kept → l.Begins s n →
          (∀ p, (e.iterate (l.stateAt s n)).LeavesAt p →
            t.FailsBehind e within draw n
              (.leftPositive p ("iteration " ++ toString (n + 1))) (l.callsUpTo s n))
          ∧ ((e.iterate (l.stateAt s n)).Kept → (n + 1) % t.frequency = 0 →
            Scalar.isFinite (e.averageLogLikelihood (l.stateAt s (n + 1))) = false →
            t.FailsBehind e within draw n (.likelihoodNotFinite (toString (n + 1)))
              (l.callsUpTo s n ++ [.evaluated (l.stateAt s (n + 1))])))
      ∧ (∀ answer, fitted.2 = .ok answer →
          s.Kept ∧ ∃ n, (∀ j < n, stop j (l.changeAt s j) = false) ∧ stop n (l.changeAt s n) = true
            ∧ (∀ j < n, (e.iterate (l.stateAt s j)).Kept
                ∧ ((j + 1) % t.frequency = 0 →
                  Scalar.isFinite (e.averageLogLikelihood (l.stateAt s (j + 1))) = true))
            ∧ fitted.1 = { current := some (l.stateAt s n), history := l.historyAt s n,
                           completed := n }
            ∧ answer = .fitted n (l.historyAt s n))
      ∧ ∀ cause, fitted.2 = .error cause →
          (∃ p, s.LeavesAt p)
            ∨ (∃ n, s.Kept ∧ l.Begins s n
              ∧ ((∃ p, (e.iterate (l.stateAt s n)).LeavesAt p)
                ∨ (e.iterate (l.stateAt s n)).Kept ∧ (n + 1) % t.frequency = 0
                  ∧ Scalar.isFinite (e.averageLogLikelihood (l.stateAt s (n + 1))) = false))
            ∨ s.Kept ∧ cause = .unfinished ∧ ∀ n, l.Begins s n := by
  intro s l fitted
  have hrule : ∀ n x, ∃ b, t.rule.stops within n x = .ok b := fun n x => ⟨stop n x, hstop n x⟩
  have hstart : ∀ p, State.LeavesAt s p →
      fitted = (.new, .error (.leftPositive p "initialization")) := by
    intro p hp
    show (Session.new : Session t).conclude (t.fitWith e within draw 0) = _
    rw [fitWith_of_leavesAt hp]
    rfl
  refine ⟨hstart, ?_, ?_, ?_⟩
  · intro n hs hn
    constructor
    · intro p hp
      have hb : l.Breaks s n (.leftPositive p (Loop.phaseName n)) [] :=
        .check ((notChecked_iff hcheck s n _).mpr ⟨p, hp, rfl⟩)
      have h := failsBehind_of_breaks hcheck hf hs hn hb
      rwa [List.append_nil] at h
    · intro hk hm hv
      exact failsBehind_of_breaks hcheck hf hs hn (.value ((checked_iff hcheck s n).mpr hk) hm hv)
  · intro answer ha
    rcases s.kept_or_leavesAt with hs | ⟨p, hp⟩
    · refine ⟨hs, ?_⟩
      rcases conclude_cases e within hcheck hf hrule hs with
        ⟨n, hfinish, hfitted⟩ | ⟨n, cause, calls, -, -, hfails⟩ | ⟨-, hnever⟩
      · cases (congrArg Prod.snd hfitted).symm.trans ha
        refine ⟨n, fun j hj => ?_, ?_, fun j hj => ⟨?_, ?_⟩, congrArg Prod.fst hfitted, rfl⟩
        · exact Except.ok.inj ((hstop j _).symm.trans (hfinish.goes j hj))
        · exact Except.ok.inj ((hstop n _).symm.trans hfinish.stops)
        · exact (checked_iff hcheck s j).mp (hfinish.checked j hj)
        · exact (Loop.finite_iff hf s n).mp hfinish.finite j hj
      · cases hfails.answer.symm.trans ha
      · cases hnever.symm.trans ha
    · cases (congrArg Prod.snd (hstart p hp)).symm.trans ha
  · intro cause hc
    rcases s.kept_or_leavesAt with hs | hp
    · rcases conclude_cases e within hcheck hf hrule hs with
        ⟨n, -, hfitted⟩ | ⟨n, cause', calls, hbegins, hbreaks, -⟩ | ⟨hall, hnever⟩
      · cases (congrArg Prod.snd hfitted).symm.trans hc
      · refine Or.inr (Or.inl ⟨n, hs, hbegins, ?_⟩)
        cases hbreaks with
        | check h =>
          obtain ⟨p, hp, -⟩ := (notChecked_iff hcheck s n _).mp h
          exact Or.inl ⟨p, hp⟩
        | value h hm hv => exact Or.inr ⟨(checked_iff hcheck s n).mp h, hm, hv⟩
      · exact Or.inr (Or.inr ⟨hs, Except.error.inj (hc.symm.trans hnever), hall⟩)
    · exact Or.inl hp

/-- Phases that lower the rates of the users and do nothing else. -/
noncomputable def lowering [SpecialFunctions] (step : ℝ) :
    Engine ℝ sample.userIndex.size sample.itemIndex.size sample.features where
  count s := s
  renewUsers s :=
    { s with users := { s.users with rate := Table.ofFn fun u j => s.users.rate[u][j] - step } }
  renewItems s := s
  fixActivity s := s
  check := State.check
  averageLogLikelihood _ := 1
  means s := (s.users.means, s.items.means)

theorem lowering_rate [SpecialFunctions] (step : ℝ) (s : sample.Parameters)
    (u : Fin sample.userIndex.size) (j : Fin sample.features) :
    ((lowering step).iterate s).users.rate[u][j] = s.users.rate[u][j] - step :=
  Table.getElem_ofFn _ u j

/-- The rates start at one: the first iteration leaves a half, the second nothing. -/
theorem fit_guarded_sample :
    letI : SpecialFunctions := .gamma
    (lowering (1 / 2)).check = State.check ∧ 1 ≤ sample.frequency
      ∧ sample.FailsBehind (lowering (1 / 2)) (fun _ _ => .ok false) (fun _ => 1 / 2) 1
          (.leftPositive .gammaRate ("iteration " ++ toString 2))
          ((sample.loopWith (lowering (1 / 2)) fun _ _ => .ok false).callsUpTo
            (.start sample.problem (fun _ => 1 / 2) sample.features) 1) := by
  let _ : SpecialFunctions := .gamma
  have hf : 1 ≤ sample.frequency := by decide
  let e := lowering (1 / 2)
  have h := fit_guarded sample e rfl hf (fun _ _ => .ok false)
    (fun n _ => (Number.int 2).le (.int n)) (fun _ _ => rfl) (fun _ => 1 / 2)
  let s : sample.Parameters := .start sample.problem (fun _ => 1 / 2) sample.features
  have hs : s.Positive := State.start_positive sample_proper fun _ => by norm_num
  have hrate : ∀ (u : Fin sample.userIndex.size) (j : Fin sample.features),
      s.users.rate[u][j] = 1 := by
    intro u j
    show (Table.ofFn _)[u][j] = _
    rw [Table.getElem_ofFn]
    show (1 : ℝ) + 0 * (1 / 2) = 1
    norm_num
  have hhalf : ∀ (u : Fin sample.userIndex.size) (j : Fin sample.features),
      (e.iterate s).users.rate[u][j] = 1 / 2 := by
    intro u j
    rw [lowering_rate, hrate]
    norm_num
  have hfirst : (e.iterate s).Positive :=
    { users := { hs.users with
        rate := fun u j => by
          rw [hhalf]
          norm_num }
      items := hs.items }
  have hpasses : (sample.loopWith e fun _ _ => .ok false).Passes s 0 :=
    ⟨State.check_of_positive hfirst _, fun _ => rfl⟩
  have hbegins : (sample.loopWith e fun _ _ => .ok false).Begins s 1 := by
    refine ⟨fun j hj => ?_, fun j hj => ?_⟩
    · show Except.ok ((Number.int 2).le (.int j)) = _
      interval_cases j <;> rfl
    · rw [Nat.lt_one_iff.mp hj]
      exact hpasses
  have hleaves : (e.iterate (e.iterate s)).LeavesAt .gammaRate := by
    refine ⟨⟨_, Table.mem_entries.mpr ⟨⟨0, by decide⟩, ⟨0, by decide⟩, rfl⟩, ?_⟩, [], _, rfl, ?_⟩
    · have hzero : (e.iterate (e.iterate s)).users.rate[(⟨0, by decide⟩ :
          Fin sample.userIndex.size)][(⟨0, by decide⟩ : Fin sample.features)] = 0 := by
        rw [lowering_rate, hhalf]
        norm_num
      rw [hzero, Bool.eq_false_iff, Ne, Scalar.real_isPositive]
      exact lt_irrefl 0
    · intro q hq
      cases hq
  have hkept : s.Kept := (State.check_eq_ok_iff_kept "" s).mp (State.check_of_positive hs "")
  exact ⟨rfl, hf, (h.2.1 1 hkept hbegins).1 .gammaRate hleaves⟩

end Trainer

end PoissonFactor
