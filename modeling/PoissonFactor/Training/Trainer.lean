import PoissonFactor.Model.Engine
import PoissonFactor.Training.Arithmetic
import PoissonFactor.Training.Settings

/-!
# Training a factorization

A trainer is made from a split, the priors, the settings of the run and a stopping
rule. First all checks are run, in that order; behind them every rating lies inside
the tables and neither part is empty. Then, when a fit is about to draw its start, the
numbers are read in the arithmetic of the fit. `fitFrom` draws the start, runs the loop
and gives the last state, whose means are the model.
-/

namespace PoissonFactor

/-- A split with the settings of a fit, all of it checked. -/
structure Checked where
  split : Split
  hyper : Hyper
  run : Run
  train : List (Observation Float split.users.size split.items.size)
  validation : List (Observation Float split.users.size split.items.size)

/-- Everything a fit needs, with its numbers read. -/
structure Trainer (α : Type) where
  userIndex : KeyIndex
  itemIndex : KeyIndex
  features : Nat
  problem : Problem α userIndex.size itemIndex.size
  frequency : Nat
  seed : Int
  verbose : Bool
  rule : StoppingRule α

/-- The fitted means with the indexes of their rows. -/
structure Model (α : Type) where
  userIndex : KeyIndex
  itemIndex : KeyIndex
  features : Nat
  users : Table α userIndex.size features
  items : Table α itemIndex.size features

namespace Model

variable {α : Type}

/-- The features of a user. -/
def userVector (m : Model α) (id : Value) : Except Failure (Vector α m.features) := do
  return m.users[← m.userIndex.indexOf id]

/-- The features of an item. -/
def itemVector (m : Model α) (id : Value) : Except Failure (Vector α m.features) := do
  return m.items[← m.itemIndex.indexOf id]

end Model

namespace Checked

variable {α : Type}

/-- The trainer of checked parts, with numbers that have been read. -/
def assemble (c : Checked) (read : Float → α) (rule : StoppingRule α) (prior : Priors α)
    (offsetShape offsetRate : α) : Trainer α where
  userIndex := c.split.users
  itemIndex := c.split.items
  features := c.hyper.featureCount
  problem := {
    userPrior := { shape := prior.a, activityShape := prior.aPrime, activityRate := prior.bPrime }
    itemPrior := { shape := prior.c, activityShape := prior.cPrime, activityRate := prior.dPrime }
    offsetShape, offsetRate
    train := c.train.map (Observation.readBy read)
    validation := c.validation.map (Observation.readBy read)
    hits := c.run.hits }
  frequency := c.run.frequency
  seed := c.run.seed
  verbose := c.run.verbose
  rule

/-- Reads the numbers of checked parts. This is the first thing that a fit does, so an integer
beyond the doubles is no fault of the settings. -/
def trainer (c : Checked) (A : Arithmetic α) (rule : StoppingRule α) :
    Except Failure (Trainer α) := do
  let prior ← c.hyper.priors.mapM fun _ n => A.read n
  let offsetShape ← A.read c.run.offsetShape
  let offsetRate ← A.read c.run.offsetRate
  return c.assemble A.ofDouble rule prior offsetShape offsetRate

end Checked

namespace Trainer

/-- Checks everything a fit needs: the priors, the settings, the rows of the ratings, and that
there are ratings to train on and ratings held out. -/
def accept (split : Split) (hyper : HyperSettings) (run : RunSettings) :
    Except Failure Checked := do
  let hyper ← hyper.check
  let run ← run.check
  let train ← Split.locate .train split.users.size split.items.size split.train
  let validation ← Split.locate .validation split.users.size split.items.size split.validation
  if train.isEmpty then throw .emptyTrain
  if validation.isEmpty then throw .emptyValidation
  return { split, hyper, run, train, validation }

/-- A trainer over doubles. -/
def make (split : Split) (hyper : HyperSettings) (run : RunSettings) (rule : StoppingRule Float) :
    Except Failure (Trainer Float) := do
  (← accept split hyper run).trainer .doubles rule

variable {α : Type} [Scalar α]

/-- The parameters of this trainer's fit. -/
abbrev Parameters (t : Trainer α) : Type :=
  State α t.userIndex.size t.itemIndex.size t.features

/-- How many draws the random start takes. -/
def draws (t : Trainer α) : Nat :=
  (t.userIndex.size + t.itemIndex.size) * rowDraws t.features

/-- The checked start of a fit. -/
def start? (t : Trainer α) (draw : Nat → α) : Except Failure t.Parameters := do
  let s : t.Parameters := .start t.problem draw t.features
  s.check "initialization"
  return s

/-- The loop of a fit with the phases of an engine. -/
def loopWith (t : Trainer α) (e : Engine α t.userIndex.size t.itemIndex.size t.features)
    (within : α → Number → Except Failure Bool) : Loop Id t.Parameters α where
  advance := e.iterate
  check := e.check
  settle := e.fixActivity
  evaluate := e.averageLogLikelihood
  frequency := t.frequency
  stops := t.rule.stops within

/-- The loop of a fit on a backend. -/
def loop (t : Trainer α) (b : Backend) (within : α → Number → Except Failure Bool) :
    Loop Id t.Parameters α :=
  t.loopWith (b.engine t.problem) within

/-- The model of a state. -/
def model (t : Trainer α) (b : Backend) (s : t.Parameters) : Model α :=
  let (users, items) := (b.engine t.problem).means s
  { userIndex := t.userIndex, itemIndex := t.itemIndex, features := t.features, users, items }

/-- A fit with the phases of an engine, from a stream of draws: how far it came and how it ended.
`completed` is the number of completed iterations that stays if none completes. -/
def fitWith (t : Trainer α) (e : Engine α t.userIndex.size t.itemIndex.size t.features)
    (within : α → Number → Except Failure Bool) (draw : Nat → α) (completed : Nat) :
    Except Failure (Progress t.Parameters α × Ending) := do
  let s ← t.start? draw
  return (t.loopWith e within).run s completed

/-- A fit on a backend. -/
def fitFrom (t : Trainer α) (b : Backend) (within : α → Number → Except Failure Bool)
    (draw : Nat → α) (completed : Nat) :
    Except Failure (Progress t.Parameters α × Ending) :=
  t.fitWith (b.engine t.problem) within draw completed

end Trainer

/-- A trainer that keeps the ratings of both parts in columns. -/
structure ColumnTrainer (α : Type) where
  trainer : Trainer α
  train : Columns.Layout trainer.problem.train
  validation : Columns.Layout trainer.problem.validation

namespace ColumnTrainer

variable {α : Type}

/-- Lays the ratings of a trainer out. -/
def of (t : Trainer α) : ColumnTrainer α where
  trainer := t
  train := .of t.problem.train
  validation := .of t.problem.validation

/-- A trainer over doubles that keeps columns: the checks are those of the other. -/
def make (split : Split) (hyper : HyperSettings) (run : RunSettings) (rule : StoppingRule Float) :
    Except Failure (ColumnTrainer Float) := do
  return .of (← Trainer.make split hyper run rule)

variable [Scalar α]

/-- The phases on the columns that are kept. -/
def engine (c : ColumnTrainer α) :
    Engine α c.trainer.userIndex.size c.trainer.itemIndex.size c.trainer.features :=
  Columns.engine c.trainer.problem c.train c.validation

/-- A fit on the columns that are kept. -/
def fitFrom (c : ColumnTrainer α) (within : α → Number → Except Failure Bool) (draw : Nat → α)
    (completed : Nat) : Except Failure (Progress c.trainer.Parameters α × Ending) :=
  c.trainer.fitWith c.engine within draw completed

end ColumnTrainer

end PoissonFactor
