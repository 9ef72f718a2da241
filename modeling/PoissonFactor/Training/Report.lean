import PoissonFactor.Model.Special
import PoissonFactor.Random.Uniform
import PoissonFactor.Report.Json
import PoissonFactor.Training.Trainer

/-!
# What a fit reports

A fit draws its start from the seed. While it runs it reports its start, every
evaluation and its end, each on a line behind the backend's tag; all of these lines
follow from the record that the fit leaves. The summary of a fit repeats the last
evaluation and lists all of them.
-/

namespace PoissonFactor

namespace Trainer

/-- A fit with the draws of the trainer's seed. -/
def fitOver {α : Type} [Scalar α] (A : Arithmetic α) (t : Trainer α) (b : Backend)
    (completed : Nat) : Except Failure (Progress t.Parameters α × Ending) :=
  t.fitFrom b A.within (A.draw t.seed t.draws) completed

/-- The draws of a trainer's seed. -/
def drawn (t : Trainer Float) : Array Float :=
  (Random.uniform t.seed t.draws).toArray

/-- The checked start of a fit over doubles. -/
def start (t : Trainer Float) : Except Failure t.Parameters :=
  let drawn := t.drawn
  t.start? fun i => drawn.getD i 0

/-- A fit over doubles. -/
def fit (t : Trainer Float) (b : Backend) (completed : Nat) :
    Except Failure (Progress t.Parameters Float × Ending) :=
  t.fitOver .doubles b completed

section

variable {α : Type}

/-- Puts the backend's tag before a line. -/
def tagged (b : Backend) (line : String) : String :=
  b.tag ++ " " ++ line

/-- What is reported when a fit starts. -/
def startLines (t : Trainer α) (b : Backend) : List String :=
  (match b with
    | .rows => []
    | .columns => ["training on cpu"])
  ++ ["initialized " ++ toString t.userIndex.size ++ " users, " ++ toString t.itemIndex.size
    ++ " items, K=" ++ toString t.features]

/-- What is reported when a fit has ended. -/
def endLine (completed : Nat) : String :=
  "finished after " ++ toString completed ++ " iterations"

/-- All lines of a fit with this record. -/
def lines {σ : Type} (A : Arithmetic α) (t : Trainer α) (b : Backend) (p : Progress σ α)
    (e : Ending) : List String :=
  if t.verbose then
    (t.startLines b ++ p.history.map A.line
      ++ (match e with
          | .finished => [endLine p.completed]
          | .failed _ => [])).map (tagged b)
  else []

end

end Trainer

/-- The numbers that sum up a fit. -/
structure Summary (α : Type) where
  iterations : Nat
  history : List (Evaluation α)
  users : Nat
  items : Nat
  features : Nat

namespace Summary

/-- The last evaluation, if there was one. -/
def last? {α : Type} (s : Summary α) : Option (Evaluation α) :=
  s.history.getLast?

/-- A double that may be missing, as a value. -/
def optional : Option Float → Value
  | some x => .float x
  | none => .null

/-- An evaluation as a value. -/
def evaluationValue (e : Evaluation Float) : Value :=
  .dict [(.str "iteration", .int e.iteration), (.str "avg_pll", .float e.likelihood),
    (.str "change", .float e.change)]

/-- The summary as a value. -/
def value (s : Summary Float) : Value :=
  .dict [(.str "iterations", .int s.iterations),
    (.str "avg_pll", optional (s.last?.map (·.likelihood))),
    (.str "change", optional (s.last?.map (·.change))),
    (.str "history", .list (s.history.map evaluationValue)),
    (.str "users", .int s.users), (.str "items", .int s.items), (.str "features", .int s.features)]

end Summary

end PoissonFactor
