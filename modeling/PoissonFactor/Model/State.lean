import PoissonFactor.Model.Scalar
import PoissonFactor.Model.Table
import PoissonFactor.Ratings.Split

/-!
# The parameters of a fit

Users and items are treated alike: each side has, for every row and feature, a shape
and a rate, for every row an activity shape and rate, and the shapes that the next
iteration will use, which fill up while ratings are counted. A `State` is one such
`Factor` for the users and one for the items. The sizes are part of the types, so
no row or feature can lie outside.
-/

namespace PoissonFactor

/-- The parameters of one side: `n` rows and `k` features. -/
structure Factor (α : Type) (n k : Nat) where
  shape : Table α n k
  rate : Table α n k
  activityShape : Vector α n
  activityRate : Vector α n
  /-- The shapes of the next iteration, as far as ratings have been counted. -/
  counted : Table α n k

/-- The parameters of both sides. -/
structure State (α : Type) (users items k : Nat) where
  users : Factor α users k
  items : Factor α items k

/-- The prior parameters of one side. -/
structure SidePrior (α : Type) where
  shape : α
  activityShape : α
  activityRate : α

/-- What a fit is about: priors, the reach of the random start, the ratings, and how the
likelihood of the held-out ratings is taken. -/
structure Problem (α : Type) (users items : Nat) where
  userPrior : SidePrior α
  itemPrior : SidePrior α
  offsetShape : α
  offsetRate : α
  train : List (Observation α users items)
  validation : List (Observation α users items)
  /-- Whether a held-out rating counts only as a hit or a miss. -/
  hits : Bool

namespace Factor

variable {α : Type} {n k : Nat}

/-- The mean of a row and feature: shape over rate. -/
def mean [Scalar α] (f : Factor α n k) (i : Fin n) (j : Fin k) : α :=
  f.shape[i][j] / f.rate[i][j]

/-- The means of all rows and features. -/
def means [Scalar α] (f : Factor α n k) : Table α n k :=
  Table.ofFn f.mean

end Factor

namespace State

variable {α : Type} {users items k : Nat}

/-- The entries of a checked parameter. -/
def parameter (s : State α users items k) : Parameter → List α
  | .gammaRate => s.users.rate.entries
  | .kappaRate => s.users.activityRate.toList
  | .lambdaRate => s.items.rate.entries
  | .tauRate => s.items.activityRate.toList
  | .gammaShape => s.users.shape.entries
  | .kappaShape => s.users.activityShape.toList
  | .lambdaShape => s.items.shape.entries
  | .tauShape => s.items.activityShape.toList

end State

/-- The parameters in the order they are checked. -/
def Parameter.all : List Parameter :=
  [.gammaRate, .kappaRate, .lambdaRate, .tauRate, .gammaShape, .kappaShape, .lambdaShape, .tauShape]

namespace State

variable {α : Type} [Scalar α] {users items k : Nat}

/-- Are all entries of a parameter finite and above zero? -/
def keeps (s : State α users items k) (p : Parameter) : Bool :=
  (s.parameter p).all Scalar.isPositive

/-- Names the first parameter that left the positive numbers. -/
def check (phase : String) (s : State α users items k) : Except Failure Unit :=
  match Parameter.all.find? fun p => !s.keeps p with
  | some p => .error (.leftPositive p phase)
  | none => .ok ()

end State

end PoissonFactor
