import PoissonFactor.Proofs.Model.Columns
import PoissonFactor.Training.Session

/-!
# Either backend gives the same fit

The second backend makes its trainer with the checks of the first and then keeps the
ratings of both parts in columns (`ColumnTrainer`). From there on it works with the
engine that reads these columns. Since that engine is the other one, nothing that is
done to a trainer can tell the two apart: single phases in any order, with entries
overwritten in between, a whole fit with its record and its failure, and the model.

> `Trainer.backends_agree`: trainers are made alike, columns that hold the ratings give
> the same phases and fits, and every sequence of actions leaves the same parameters and
> record and gives the same answers.

The arithmetic is arbitrary throughout.
-/

namespace PoissonFactor

/-! ## Making a trainer that keeps columns -/

namespace ColumnTrainer

/-- Laying ratings out never fails, and hides no failure. -/
theorem make_map (split : Split) (hyper : HyperSettings) (run : RunSettings)
    (rule : StoppingRule Float) :
    (make split hyper run rule).map trainer = Trainer.make split hyper run rule := by
  unfold make
  cases Trainer.make split hyper run rule with
  | error cause => rfl
  | ok t => rfl

variable {α : Type} [Scalar α] (c : ColumnTrainer α)

/-- The columns that are kept hold the ratings, so the phases on them are the other backend's. -/
theorem engine_eq_rows : c.engine = Backend.rows.engine c.trainer.problem :=
  Columns.engine_eq_rows c.trainer.problem c.train c.validation

/-- **The layout that a trainer makes is worth the rows it was made from.** -/
theorem fitFrom_eq_rows (within : α → Number → Except Failure Bool) (draw : Nat → α)
    (completed : Nat) :
    c.fitFrom within draw completed = c.trainer.fitFrom .rows within draw completed := by
  unfold fitFrom Trainer.fitFrom
  rw [engine_eq_rows]

end ColumnTrainer

/-! ## Working with it -/

namespace Session

variable {α : Type} [Scalar α] {t : Trainer α}

/-- Takes one action after the other. Behind each stand the session and what it answered. -/
def trace (s : Session t) (b : Backend) (within : α → Number → Except Failure Bool)
    (draw : Nat → α) : List (Action α) → List (Session t × Except Failure (Answer α))
  | [] => []
  | action :: rest =>
    let taken := s.applyFrom b within draw action
    taken :: taken.1.trace b within draw rest

end Session

namespace Trainer

variable {α : Type} [Scalar α] (t : Trainer α)

/-- Both backends have the same loop. -/
theorem loop_columns (within : α → Number → Except Failure Bool) :
    t.loop .columns within = t.loop .rows within := by
  unfold loop
  rw [Backend.engine_columns_eq_rows]

theorem fitFrom_columns (within : α → Number → Except Failure Bool) (draw : Nat → α) (c : Nat) :
    t.fitFrom .columns within draw c = t.fitFrom .rows within draw c := by
  unfold fitFrom
  rw [Backend.engine_columns_eq_rows]

/-- And the same model. -/
theorem model_columns (s : t.Parameters) : t.model .columns s = t.model .rows s := by
  unfold model
  rw [Backend.engine_columns_eq_rows]

end Trainer

namespace Session

variable {α : Type} [Scalar α] {t : Trainer α}

/-- One action does the same with either backend. -/
theorem applyFrom_columns (s : Session t) (within : α → Number → Except Failure Bool)
    (draw : Nat → α) (action : Action α) :
    s.applyFrom .columns within draw action = s.applyFrom .rows within draw action := by
  cases action with
  | start => rfl
  | record iteration current previous => rfl
  | put array index x => rfl
  | fit => exact congrArg s.conclude (t.fitFrom_columns within draw s.completed)
  | _ => simp only [applyFrom, Backend.engine_columns_eq_rows]

/-- So do any actions, one after the other. -/
theorem trace_columns (s : Session t) (within : α → Number → Except Failure Bool)
    (draw : Nat → α) (actions : List (Action α)) :
    s.trace .columns within draw actions = s.trace .rows within draw actions := by
  induction actions generalizing s with
  | nil => rfl
  | cons action rest ih =>
    unfold trace
    dsimp only
    rw [applyFrom_columns, ih]

end Session

/-- **The backends agree.** For any split, priors, settings and rule a trainer that keeps columns is
made exactly when one that does not is made, with the same failure otherwise. On whatever columns
hold its ratings it carries out the phases and the fit of the other. From any session, any actions
leave the same arrays, record and count behind each of them and give the same answers or failures.
A fit takes the same course to the same end, and any state has the same model. -/
theorem Trainer.backends_agree :
    (∀ (split : Split) (hyper : HyperSettings) (run : RunSettings) (rule : StoppingRule Float),
        (ColumnTrainer.make split hyper run rule).map ColumnTrainer.trainer
          = Trainer.make split hyper run rule)
      ∧ (∀ (α : Type) [Scalar α] (c : ColumnTrainer α)
          (within : α → Number → Except Failure Bool) (draw : Nat → α) (completed : Nat),
          c.engine = Backend.rows.engine c.trainer.problem
            ∧ c.fitFrom within draw completed = c.trainer.fitFrom .rows within draw completed)
      ∧ ∀ (α : Type) [Scalar α] (t : Trainer α) (within : α → Number → Except Failure Bool)
          (draw : Nat → α),
          (∀ (s : Session t) (actions : List (Action α)),
              s.trace .columns within draw actions = s.trace .rows within draw actions)
            ∧ (∀ c, t.fitFrom .columns within draw c = t.fitFrom .rows within draw c)
            ∧ ∀ s, t.model .columns s = t.model .rows s := by
  refine ⟨ColumnTrainer.make_map, fun α _ c within draw completed => ⟨?_, ?_⟩,
    fun α _ t within draw => ⟨?_, ?_, ?_⟩⟩
  · exact c.engine_eq_rows
  · exact c.fitFrom_eq_rows within draw completed
  · intro s actions
    exact s.trace_columns within draw actions
  · intro c
    exact t.fitFrom_columns within draw c
  · intro s
    exact t.model_columns s

end PoissonFactor
