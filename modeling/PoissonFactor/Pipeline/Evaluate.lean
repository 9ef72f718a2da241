import PoissonFactor.Pipeline.Reporting
import PoissonFactor.Ratings.Load
import PoissonFactor.Training.Report

/-!
# From rows to a model

Rows of ratings are split, a model is fitted with the settings of three sections, and
the fit is summed up. The split is reported before any setting is looked at, so a bad
setting fails behind that line.
-/

namespace PoissonFactor

/-- What a run of the whole way needs besides its rows. -/
structure Plan where
  hpf : Settings.Section := []
  train : Settings.Section := []
  stopping : Settings.Section := []
  share : Value := .float 0.1
  seed : Value := .int 42
  backend : String := "numpy"

/-- A fitted model with its summary. -/
structure Fitted (α : Type) where
  model : Model α
  summary : Summary α

/-- How a split is reported. -/
def Split.line (rows : Nat) (s : Split) : String :=
  "Split " ++ toString rows ++ " ratings into " ++ toString s.train.length ++ " train / "
    ++ toString s.validation.length ++ " validation (" ++ toString s.users.size ++ " users, "
    ++ toString s.items.size ++ " items)."

section

variable {α : Type} [Scalar α]

/-- What a finished fit with this progress gives. -/
def Trainer.fitted (t : Trainer α) (b : Backend) (p : Progress t.Parameters α) : Fitted α where
  model := t.model b p.state
  summary := { iterations := p.completed, history := p.history, users := t.userIndex.size,
               items := t.itemIndex.size, features := t.features }

/-- Trains with a trainer, reporting on the way. -/
def Trainer.trainOver (A : Arithmetic α) (t : Trainer α) (b : Backend) : Reporting (Fitted α) := do
  let (p, ending) ← Reporting.silent (t.fitOver A b 0)
  Reporting.sayAll (t.lines A b p ending)
  match ending with
  | .failed cause => throw cause
  | .finished => return t.fitted b p

end

namespace Plan

variable {α : Type}

/-- Splits rows and makes the trainer of a plan, in an arithmetic. -/
def trainerOver (A : Arithmetic α) (plan : Plan) (rows : List RatingRow) :
    Reporting (Trainer α × Backend) := do
  let split ← Reporting.silent (Split.holdOut rows plan.share plan.seed)
  Reporting.say (split.line rows.length)
  let hyper ← Reporting.silent (HyperSettings.ofSection plan.hpf)
  let run ← Reporting.silent (RunSettings.ofSection plan.train)
  let rule ← Reporting.silent (StoppingRule.ofSection plan.stopping)
  let backend ← Reporting.silent (Backend.ofName plan.backend)
  let checked ← Reporting.silent (Trainer.accept split hyper run)
  let trainer ← Reporting.silent (checked.trainer A rule)
  return (trainer, backend)

/-- Splits rows, fits a model and sums the fit up, in an arithmetic. -/
def evaluateOver [Scalar α] (A : Arithmetic α) (plan : Plan) (rows : List RatingRow) :
    Reporting (Fitted α) := do
  let (trainer, backend) ← plan.trainerOver A rows
  trainer.trainOver A backend

/-- Splits rows, fits a model and sums the fit up. -/
def evaluate (plan : Plan) (rows : List RatingRow) : Reporting (Fitted Float) :=
  plan.evaluateOver .doubles rows

/-- Loads a rating file and goes the whole way. -/
def evaluateFile (plan : Plan) (files : FileTree) (path : String) (limit : Option Value) :
    Reporting (Fitted Float) := do
  let rows ← Reporting.silent (LoadedRating.load files path limit)
  Reporting.sayAll (LoadedRating.report path rows)
  plan.evaluate (rows.map LoadedRating.toRow)

end Plan

end PoissonFactor
