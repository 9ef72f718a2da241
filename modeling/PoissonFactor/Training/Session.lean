import PoissonFactor.Training.Report

/-!
# Working with a trainer step by step

A session holds a trainer's current parameters, its recorded evaluations and the
number of its last completed iteration. Every action of a fit can be taken alone, in
any order; an action that fails changes nothing, except that a fit that fails behind
its start leaves its parameters and its record as it had them then.
-/

namespace PoissonFactor

/-- The ten arrays of a fit. -/
inductive ArrayName where
  /-- One of the arrays that are checked. -/
  | checked (p : Parameter)
  /-- The counted shapes of a side. -/
  | counted (side : Side)
deriving DecidableEq

namespace ArrayName

/-- The arrays in the order they are shown. -/
def all : List ArrayName :=
  [.checked .gammaShape, .checked .gammaRate, .checked .kappaShape, .checked .kappaRate,
    .checked .lambdaShape, .checked .lambdaRate, .checked .tauShape, .checked .tauRate,
    .counted .user, .counted .item]

/-- The name of an array. -/
def name : ArrayName → String
  | .checked p => p.name
  | .counted .user => "gamma_shp_next"
  | .counted .item => "lambda_shp_next"

/-- The array with this name. -/
def ofName? (name : String) : Option ArrayName :=
  all.find? fun a => a.name == name

end ArrayName

/-- An array with one or two levels. -/
inductive Cells (α : Type) where
  | row (xs : List α)
  | table (rows : List (List α))

namespace State

variable {α : Type} {users items k : Nat}

/-- The rows of a table. -/
def rows {m n : Nat} (t : Table α m n) : List (List α) :=
  t.toList.map Vector.toList

/-- The entries of an array. -/
def cells (s : State α users items k) : ArrayName → Cells α
  | .checked .gammaShape => .table (rows s.users.shape)
  | .checked .gammaRate => .table (rows s.users.rate)
  | .checked .kappaShape => .row s.users.activityShape.toList
  | .checked .kappaRate => .row s.users.activityRate.toList
  | .checked .lambdaShape => .table (rows s.items.shape)
  | .checked .lambdaRate => .table (rows s.items.rate)
  | .checked .tauShape => .row s.items.activityShape.toList
  | .checked .tauRate => .row s.items.activityRate.toList
  | .counted .user => .table (rows s.users.counted)
  | .counted .item => .table (rows s.items.counted)

/-- A position on one axis; a negative one counts from the end. -/
def position (axis size : Nat) (i : Int) : Except Failure (Fin size) :=
  let j := if i < 0 then i + size else i
  if h : 0 ≤ j ∧ j < size then .ok ⟨j.toNat, by omega⟩ else .error (.axisOutOfBounds i axis size)

/-- Replaces one entry of a row of values. -/
def putRow {n : Nat} (xs : Vector α n) (index : List Int) (x : α) :
    Except Failure (Vector α n) :=
  match index with
  | [i] => do
    let i ← position 0 n i
    return xs.set i x i.isLt
  | _ => .error (.tooManyIndices 1)

/-- Replaces one entry of a table. -/
def putTable {m n : Nat} (t : Table α m n) (index : List Int) (x : α) :
    Except Failure (Table α m n) :=
  match index with
  | [i, j] => do
    let i ← position 0 m i
    let j ← position 1 n j
    return t.set i (t[i].set j x j.isLt) i.isLt
  | _ => .error (.tooManyIndices 2)

/-- Replaces one entry of an array. -/
def put (s : State α users items k) (array : ArrayName) (index : List Int) (x : α) :
    Except Failure (State α users items k) := do
  match array with
  | .checked .gammaShape =>
    return { s with users := { s.users with shape := ← putTable s.users.shape index x } }
  | .checked .gammaRate =>
    return { s with users := { s.users with rate := ← putTable s.users.rate index x } }
  | .checked .kappaShape =>
    return { s with
      users := { s.users with activityShape := ← putRow s.users.activityShape index x } }
  | .checked .kappaRate =>
    return { s with
      users := { s.users with activityRate := ← putRow s.users.activityRate index x } }
  | .checked .lambdaShape =>
    return { s with items := { s.items with shape := ← putTable s.items.shape index x } }
  | .checked .lambdaRate =>
    return { s with items := { s.items with rate := ← putTable s.items.rate index x } }
  | .checked .tauShape =>
    return { s with
      items := { s.items with activityShape := ← putRow s.items.activityShape index x } }
  | .checked .tauRate =>
    return { s with
      items := { s.items with activityRate := ← putRow s.items.activityRate index x } }
  | .counted .user =>
    return { s with users := { s.users with counted := ← putTable s.users.counted index x } }
  | .counted .item =>
    return { s with items := { s.items with counted := ← putTable s.items.counted index x } }

end State

/-- One action on a trainer. -/
inductive Action (α : Type) where
  | start
  | count
  | renewUsers
  | renewItems
  | fixActivity
  | check (phase : String)
  | likelihood
  | means
  | record (iteration : Int) (current previous : α)
  | put (array : ArrayName) (index : List Int) (x : α)
  | fit

/-- What an action answers. -/
inductive Answer (α : Type) where
  | done
  | value (x : α)
  | means (users items : List (List α))
  | recorded (change : α) (history : List (Evaluation α))
  | fitted (completed : Nat) (history : List (Evaluation α))

/-- A trainer at work. -/
structure Session {α : Type} [Scalar α] (t : Trainer α) where
  current : Option t.Parameters
  history : List (Evaluation α)
  completed : Nat

namespace Session

variable {α : Type} [Scalar α] {t : Trainer α}

/-- A session before its first action. -/
def new : Session t := { current := none, history := [], completed := 0 }

/-- The current parameters. `name` is the array that an action looks at first. -/
def parameters (s : Session t) (name : String) : Except Failure t.Parameters :=
  match s.current with
  | some p => .ok p
  | none => .error (.noState name)

/-- Replaces the current parameters by what a phase makes of them. -/
def phase (s : Session t) (name : String) (f : t.Parameters → t.Parameters) :
    Except Failure (Session t × Answer α) := do
  let p ← s.parameters name
  return ({ s with current := some (f p) }, .done)

/-- Does the trainer have a rating that counts? -/
def hasRatings (t : Trainer α) : Bool :=
  t.problem.train.any Rows.counts

/-- Takes an action that changes nothing when it fails. -/
def attempt (s : Session t) (r : Except Failure (Session t × Answer α)) :
    Session t × Except Failure (Answer α) :=
  match r with
  | .ok (s, answer) => (s, .ok answer)
  | .error cause => (s, .error cause)

/-- Takes the outcome of a fit. Behind its start a fit works on the session's own parameters, so
they stay as they are when it fails. -/
def conclude (s : Session t) :
    Except Failure (Progress t.Parameters α × Ending) → Session t × Except Failure (Answer α)
  | .error cause => (s, .error cause)
  | .ok (p, ending) =>
    let left : Session t :=
      { current := some p.state, history := p.history, completed := p.completed }
    match ending with
    | .failed cause => (left, .error cause)
    | .finished => (left, .ok (.fitted p.completed p.history))

/-- Takes one action. A start, alone or in a fit, is drawn from the stream. -/
def applyFrom (s : Session t) (b : Backend) (within : α → Number → Except Failure Bool)
    (draw : Nat → α) : Action α → Session t × Except Failure (Answer α)
  | .start => s.attempt do return ({ s with current := some (← t.start? draw) }, .done)
  | .count =>
    s.attempt <|
      if hasRatings t then s.phase "gamma_shp" (b.engine t.problem).count else .ok (s, .done)
  | .renewUsers => s.attempt (s.phase "lambda_shp" (b.engine t.problem).renewUsers)
  | .renewItems => s.attempt (s.phase "gamma_shp" (b.engine t.problem).renewItems)
  | .fixActivity => s.attempt (s.phase "kappa_shp" (b.engine t.problem).fixActivity)
  | .check phase => s.attempt do
    (b.engine t.problem).check phase (← s.parameters "gamma_rte")
    return (s, .done)
  | .likelihood => s.attempt do
    return (s, .value ((b.engine t.problem).averageLogLikelihood (← s.parameters "gamma_shp")))
  | .means => s.attempt do
    let (users, items) := (b.engine t.problem).means (← s.parameters "gamma_shp")
    return (s, .means (State.rows users) (State.rows items))
  | .record iteration current previous => s.attempt do
    let e ← evaluation iteration current previous
    let history := s.history ++ [e]
    return ({ s with history }, .recorded e.change history)
  | .put array index x => s.attempt do
    let p ← (← s.parameters array.name).put array index x
    return ({ s with current := some p }, .done)
  | .fit => s.conclude (t.fitFrom b within draw s.completed)

/-- Takes one action over doubles, with the draws of the trainer's seed. -/
def apply {t : Trainer Float} (s : Session t) (b : Backend) (action : Action Float) :
    Session t × Except Failure (Answer Float) :=
  let drawn := t.drawn
  s.applyFrom b changeWithin (fun i => drawn.getD i 0) action

end Session

end PoissonFactor
