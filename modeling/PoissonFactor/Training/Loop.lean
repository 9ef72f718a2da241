import PoissonFactor.Failure
import PoissonFactor.Model.Scalar

/-!
# The training loop

Before every iteration the loop asks whether to stop, showing the number of
iterations done and the last change. An iteration advances the state and checks it;
after the first one some parameters settle for good. At every multiple of the
frequency the state is evaluated and the change against the evaluation before is
kept. The loop ends when it is told to stop or when a check fails; what was recorded
until then stays.

Nothing here depends on what a state is, so the laws of the loop hold whatever the
phases do.
-/

namespace PoissonFactor

/-- An evaluation: after which iteration, its value, and the change against the one before. -/
structure Evaluation (α : Type) where
  iteration : Int
  likelihood : α
  change : α

/-- What a loop does. It calls out at two points only, to evaluate a state and to ask whether to
stop; `m` is what such a call may do besides answering. -/
structure Loop (m : Type → Type) (σ α : Type) where
  advance : σ → σ
  check : String → σ → Except Failure Unit
  /-- What happens once, after the first iteration. -/
  settle : σ → σ
  evaluate : σ → m α
  frequency : Nat
  stops : Nat → α → m (Except Failure Bool)

/-- How far a loop has come. -/
structure Progress (σ α : Type) where
  state : σ
  /-- How many iterations were begun. -/
  begun : Nat
  /-- The number of the last completed iteration. -/
  completed : Nat
  change : α
  previous : α
  history : List (Evaluation α)

/-- One more iteration is begun, and this is what it makes of the state. -/
def Progress.enter {σ α : Type} (p : Progress σ α) (s : σ) : Progress σ α :=
  { p with state := s, begun := p.begun + 1 }

/-- How a loop ends. -/
inductive Ending where
  | finished
  | failed (cause : Failure)

section

variable {σ α : Type} [Scalar α]

/-- The change from one evaluation to the next, relative to the earlier one unless that is
zero. -/
def relativeChange (current previous : α) : α :=
  if Scalar.equal previous Scalar.zero then Scalar.abs (current - previous)
  else Scalar.abs ((current - previous) / previous)

/-- The evaluation to record, which has to be finite. -/
def evaluation (iteration : Int) (current previous : α) : Except Failure (Evaluation α) :=
  if Scalar.isFinite current then
    .ok { iteration, likelihood := current, change := relativeChange current previous }
  else .error (.likelihoodNotFinite (toString iteration))

namespace Loop

/-- A loop that has not begun. `completed` is the number that stays if no iteration completes. -/
def begin (state : σ) (completed : Nat) : Progress σ α where
  state
  begun := 0
  completed
  change := Scalar.one
  previous := Scalar.largest
  history := []

variable {m : Type → Type} [Monad m]

/-- Evaluates the state if the iteration is a multiple of the frequency. -/
def record (l : Loop m σ α) (p : Progress σ α) : m (Except Failure (Progress σ α)) := do
  if p.begun % l.frequency = 0 then
    let current ← l.evaluate p.state
    match evaluation p.begun current p.previous with
    | .ok e =>
      return .ok { p with change := e.change, previous := current, history := p.history ++ [e] }
    | .error cause => return .error cause
  else return .ok p

/-- What the check of an iteration is told, `before` iterations having gone before. -/
def phaseName (before : Nat) : String :=
  "iteration " ++ toString (before + 1)

/-- Settles the state of the first iteration. -/
def finish (l : Loop m σ α) (before : Nat) (s : σ) : σ :=
  if before = 0 then l.settle s else s

/-- One question and, if it is not answered by stopping, one iteration. -/
def step (l : Loop m σ α) (p : Progress σ α) : m (Progress σ α × Option Ending) := do
  match ← l.stops p.begun p.change with
  | .error cause => return (p, some (.failed cause))
  | .ok true => return (p, some .finished)
  | .ok false =>
    let s := l.advance p.state
    match l.check (phaseName p.begun) s with
    | .error cause => return (p.enter s, some (.failed cause))
    | .ok () =>
      let p := p.enter (l.finish p.begun s)
      match ← l.record p with
      | .error cause => return (p, some (.failed cause))
      | .ok p => return ({ p with completed := p.begun }, none)

/-- Steps until the loop ends. A loop that never ends has no outcome. -/
def runFrom (l : Loop Id σ α) (p : Progress σ α) : Option (Progress σ α × Ending) :=
  match Id.run (l.step p) with
  | (p, some ending) => some (p, ending)
  | (p, none) => l |>.runFrom p
partial_fixpoint

/-- Runs a loop from its beginning. -/
def run (l : Loop Id σ α) (state : σ) (completed : Nat) : Progress σ α × Ending :=
  let start := begin state completed
  (l.runFrom start).getD (start, .failed .unfinished)

end Loop

end

end PoissonFactor
