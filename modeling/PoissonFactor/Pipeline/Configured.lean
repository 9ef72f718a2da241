import PoissonFactor.Pipeline.Evaluate

/-!
# Plans from settings files

A settings file describes a plan by four sections: the priors, the training run, the
stopping rule and the split. The training section may also name the backend; the name
is no setting of the run and is taken out. The settings of the split have to convert at
once, all others only when the plan gets to them.
-/

namespace PoissonFactor

namespace Settings

/-- A list of named values without one name. -/
def remove {α : Type} (name : String) (s : List (String × α)) : List (String × α) :=
  s.filter fun entry => entry.1 ≠ name

/-- The backend that a training section names. -/
def Section.backendName (s : Section) : String :=
  ((s.lookup "backend").getD (.str "numpy")).text

end Settings

/-- The plan that a settings file describes. -/
def Plan.ofDocument (d : Settings.Document) : Except Failure Plan := do
  let train := d.section "train"
  let split := d.section "split"
  let share ← ((split.lookup "validation_frac").getD (.float 0.1)).toFloat
  let seed ← ((split.lookup "seed").getD (.int 42)).toInt
  return { hpf := d.section "hpf", train := Settings.remove "backend" train,
           stopping := d.section "stopping", share := .float share, seed := .int seed,
           backend := train.backendName }

end PoissonFactor
