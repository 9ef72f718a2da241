import PoissonFactor.Pipeline.Evaluate
import PoissonFactor.Proofs.Outcome

/-!
# What a reporting computation gives

Printing never decides how a computation ends. A computation that prints is taken apart
here into the parts that may fail, whatever was printed before:

> `Plan.evaluateOver_eq_ok_iff`: in whatever arithmetic, a run of the whole way gives a result
> exactly when each of its parts does, from the split to the finished fit.
-/

namespace PoissonFactor

namespace Reporting

variable {α β : Type}

/-- How a computation ends, and the lines there are then, when some lines were printed before. -/
def after (r : Reporting α) (lines : List String) : Except Failure α × List String :=
  (r.run).run lines

/-- A silent step that succeeds is followed by the rest, with no line more. -/
theorem after_silent_bind (x : Except Failure α) (f : α → Reporting β) (lines : List String)
    (b : β) :
    ((silent x >>= f).after lines).1 = .ok b ↔ ∃ a, x = .ok a ∧ ((f a).after lines).1 = .ok b := by
  cases x with
  | error cause =>
    constructor
    · intro h
      cases h
    · rintro ⟨a, h, -⟩
      cases h
  | ok a =>
    constructor
    · intro h
      exact ⟨a, rfl, h⟩
    · rintro ⟨a', h, hf⟩
      cases h
      exact hf

/-- A line that is said stands behind the lines so far. -/
theorem after_say_bind (line : String) (f : Unit → Reporting β) (lines : List String) :
    (say line >>= f).after lines = (f ()).after (lines ++ [line]) :=
  rfl

theorem after_sayAll_bind (new : List String) (f : Unit → Reporting β) (lines : List String) :
    (sayAll new >>= f).after lines = (f ()).after (lines ++ new) :=
  rfl

/-- A computation goes on where its first part stopped, unless that failed. -/
theorem after_bind (r : Reporting α) (f : α → Reporting β) (lines : List String) :
    (r >>= f).after lines = match r.after lines with
      | (.ok a, now) => (f a).after now
      | (.error cause, now) => (.error cause, now) := by
  show (ExceptT.bindCont f (r.after lines).1 : StateM _ _) (r.after lines).2 = _
  obtain ⟨x, now⟩ := r.after lines
  cases x
  all_goals rfl

/-- A function of what a computation gives says nothing of its own. -/
theorem after_bind_pure (r : Reporting α) (f : α → β) (lines : List String) :
    (r >>= fun a => pure (f a)).after lines = ((r.after lines).1.map f, (r.after lines).2) := by
  rw [after_bind]
  obtain ⟨x, now⟩ := r.after lines
  cases x
  all_goals rfl

/-- Lines that were printed before stand in front of what is printed, and decide nothing else. -/
def Appends (r : Reporting α) : Prop :=
  ∀ lines, r.after lines = (r.outcome.1, lines ++ r.outcome.2)

/-- What only appends still does behind a silent step. -/
theorem Appends.silent_bind {x : Except Failure α} {f : α → Reporting β}
    (h : ∀ a, (f a).Appends) : (silent x >>= f).Appends := by
  cases x with
  | error cause =>
    intro lines
    exact congrArg (Prod.mk (Except.error cause)) (List.append_nil lines).symm
  | ok a => exact h a

theorem Appends.sayAll_bind {new : List String} {f : Unit → Reporting β} (h : (f ()).Appends) :
    (sayAll new >>= f).Appends := by
  intro lines
  show (f ()).after (lines ++ new) = (((f ()).after ([] ++ new)).1, lines ++ ((f ()).after _).2)
  rw [h, h, List.nil_append, List.append_assoc]

/-- So it does behind a line of its own. -/
theorem Appends.say_bind {line : String} {f : Unit → Reporting β} (h : (f ()).Appends) :
    (say line >>= f).Appends := by
  show (sayAll [line] >>= f).Appends
  exact .sayAll_bind h

end Reporting

/-! ## The whole way -/

section

variable {α : Type} [Scalar α] (A : Arithmetic α)

/-- Training gives a result exactly when its fit finishes. -/
theorem Trainer.after_trainOver (t : Trainer α) (b : Backend) (lines : List String) (f : Fitted α) :
    ((t.trainOver A b).after lines).1 = .ok f ↔
      ∃ p, t.fitOver A b 0 = .ok (p, .finished) ∧ f = t.fitted b p := by
  unfold trainOver
  rw [Reporting.after_silent_bind]
  constructor
  · rintro ⟨⟨p, e⟩, hp, h⟩
    dsimp only at h
    rw [Reporting.after_sayAll_bind] at h
    cases e with
    | failed cause => cases h
    | finished =>
      cases h
      exact ⟨p, hp, rfl⟩
  · rintro ⟨p, hp, rfl⟩
    exact ⟨(p, .finished), hp, rfl⟩

/-- Training only appends to the lines there are. -/
theorem Trainer.appends_trainOver (t : Trainer α) (b : Backend) : (t.trainOver A b).Appends := by
  refine .silent_bind fun ⟨p, ending⟩ => .sayAll_bind fun lines => ?_
  cases ending
  all_goals exact congrArg (Prod.mk _) (List.append_nil lines).symm

/-- **So does the whole way from the ratings to the metrics.** -/
theorem Plan.appends_evaluateOver (plan : Plan) (rows : List RatingRow) :
    (plan.evaluateOver A rows).Appends := by
  unfold evaluateOver trainerOver
  simp only [bind_assoc, pure_bind]
  exact .silent_bind fun _ => .say_bind <| .silent_bind fun _ => .silent_bind fun _ =>
    .silent_bind fun _ => .silent_bind fun _ => .silent_bind fun _ => .silent_bind fun _ =>
      Trainer.appends_trainOver A _ _

omit [Scalar α] in
/-- **What it takes to make a trainer of rows.** The rows are split, the settings of the three
sections and the name of the backend are read, the checks accept all of it and the numbers have
a reading. -/
theorem Plan.trainerOver_eq_ok_iff (plan : Plan) (rows : List RatingRow) (lines : List String)
    (made : Trainer α × Backend) :
    ((plan.trainerOver A rows).after lines).1 = .ok made ↔
      ∃ split, Split.holdOut rows plan.share plan.seed = .ok split
        ∧ ∃ hyper, HyperSettings.ofSection plan.hpf = .ok hyper
        ∧ ∃ run, RunSettings.ofSection plan.train = .ok run
        ∧ ∃ rule, StoppingRule.ofSection plan.stopping = .ok rule
        ∧ ∃ b, Backend.ofName plan.backend = .ok b
        ∧ ∃ c, Trainer.accept split hyper run = .ok c
        ∧ ∃ t, c.trainer A rule = .ok t ∧ made = (t, b) := by
  unfold trainerOver
  simp only [Reporting.after_silent_bind, Reporting.after_say_bind]
  have hpure (x : Trainer α × Backend) (now : List String) :
      ((pure x : Reporting (Trainer α × Backend)).after now).1 = .ok made ↔ made = x := by
    constructor
    · intro h
      cases h
      rfl
    · rintro rfl
      rfl
  simp only [hpure]

/-- **What it takes to go the whole way.** A trainer is made of the rows and its fit finishes. -/
theorem Plan.evaluateOver_eq_ok_iff (plan : Plan) (rows : List RatingRow) (f : Fitted α) :
    (plan.evaluateOver A rows).outcome.1 = .ok f ↔
      ∃ t b, (plan.trainerOver A rows).outcome.1 = .ok (t, b)
        ∧ ∃ p, t.fitOver A b 0 = .ok (p, .finished) ∧ f = t.fitted b p := by
  show ((plan.evaluateOver A rows).after []).1 = .ok f
    ↔ ∃ t b, ((plan.trainerOver A rows).after []).1 = .ok (t, b) ∧ _
  unfold evaluateOver
  rw [Reporting.after_bind]
  obtain ⟨x, now⟩ := (plan.trainerOver A rows).after []
  cases x with
  | error cause =>
    constructor
    · intro h
      cases h
    · rintro ⟨t, b, h, -⟩
      cases h
  | ok made =>
    dsimp only
    rw [Trainer.after_trainOver]
    constructor
    · intro h
      exact ⟨made.1, made.2, rfl, h⟩
    · rintro ⟨t, b, h, hfit⟩
      cases h
      exact hfit

end

end PoissonFactor
