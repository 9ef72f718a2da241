import PoissonFactor.Settings.Coercion
import PoissonFactor.Settings.Sections

/-!
# When a training run ends

Before every iteration the loop asks whether to stop, giving the number of
iterations done and the last relative change. A rule answers: after a number of
iterations, at a threshold of the change between a least and a greatest number of
iterations, or by a function of both. Every number of a rule may be an integer or
a double, and all comparisons are of exact values.
-/

namespace PoissonFactor

/-- A rule that ends a run. `χ` is the type of the change it is shown. -/
inductive StoppingRule (χ : Type) where
  /-- Stop after this many iterations. -/
  | iterations (n : Number)
  /-- Stop once the size of the change is at the threshold or below, after at least
  `minimum` iterations; stop in any case after `maximum`. -/
  | threshold (t minimum : Number) (maximum : Option Number)
  /-- Stop when the function of count and change says so. -/
  | function (f : Nat → χ → Except Failure Bool)
  /-- The rule nobody gave. -/
  | undecided

namespace StoppingRule

variable {χ : Type}

/-- A run of a fixed number of iterations. -/
def ofIterations (n : Value) : Except Failure (StoppingRule χ) := do
  let n ← n.comparable
  if n.lt (.int 0) then .error .negativeIterations else return .iterations n

/-- A run to a threshold of the change. -/
def ofThreshold (t minimum : Value) (maximum : Option Value) :
    Except Failure (StoppingRule χ) := do
  let t ← t.comparable
  if t.lt (.int 0) then .error .negativeThreshold
  else
    let minimum ← minimum.comparable
    if minimum.lt (.int 0) then .error .negativeMinimum
    else
      match maximum with
      | none => return .threshold t minimum none
      | some m =>
        let m ← m.comparable
        if m.lt minimum then .error .maximumBelowMinimum
        else return .threshold t minimum (some m)

/-- The rule of a settings section: a threshold, unless only a number of iterations is given. -/
def ofSection (s : Settings.Section) : Except Failure (StoppingRule χ) := do
  let maximum ← Setting.integer? (s.get "max_iterations")
  match s.get "threshold", maximum with
  | .null, some n => ofIterations (.int n)
  | t, _ =>
    let t ← Setting.decimal t 1e-4
    let minimum ← Setting.integer (s.get "min_iterations") 0
    ofThreshold (.float t) (.int minimum) (some (.int (maximum.getD 100)))

/-- Does the rule stop a run after `count` iterations with this change? `within` tells whether
the size of a change is at a threshold or below. -/
def stops (within : χ → Number → Except Failure Bool) (rule : StoppingRule χ) (count : Nat)
    (change : χ) : Except Failure Bool :=
  match rule with
  | .iterations n => .ok (n.le (.int count))
  | .threshold t minimum maximum =>
    if (match maximum with
        | some m => m.le (.int count)
        | none => false) then .ok true
    else if minimum.le (.int count) then within change t
    else .ok false
  | .function f => f count change
  | .undecided => .error .noStoppingRule

end StoppingRule

/-- The size of a value, which has to be a number. -/
def Value.magnitude (v : Value) : Except Failure Number :=
  match v with
  | .complex re im => .ok (.float (Float.sqrt (re * re + im * im)))
  | v =>
    match v.number? with
    | some n => .ok n.abs
    | none => .error (.noMagnitude v.kind)

/-- Is the size of a value at the threshold or below? -/
def Value.within (change : Value) (t : Number) : Except Failure Bool := do
  return (← change.magnitude).le t

/-- Is the size of a change at the threshold or below? -/
def changeWithin (change : Float) (t : Number) : Except Failure Bool :=
  .ok ((Number.float change.abs).le t)

/-- One question to a rule and its answer: whether to go on, and the number of the iteration
that the answer allows or of the last one done. -/
def StoppingRule.ask {χ : Type} (within : χ → Number → Except Failure Bool)
    (rule : StoppingRule χ) (count : Nat) (change : χ) : Except Failure (Bool × Nat) := do
  if ← rule.stops within count change then return (false, count) else return (true, count + 1)

/-- The answers to a row of changes from a fresh count. A question that fails changes nothing. -/
def StoppingRule.answers {χ : Type} (within : χ → Number → Except Failure Bool)
    (rule : StoppingRule χ) (count : Nat) : List χ → List (Except Failure (Bool × Nat))
  | [] => []
  | change :: rest =>
    match rule.ask within count change with
    | .ok (goOn, count') => .ok (goOn, count') :: rule.answers within count' rest
    | .error cause => .error cause :: rule.answers within count rest

end PoissonFactor
