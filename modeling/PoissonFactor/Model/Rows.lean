import PoissonFactor.Model.Softmax
import PoissonFactor.Model.Start

/-!
# The update phases, rating by rating

One iteration counts the training ratings and then renews the users and the items.
A rating above zero is shared out among the features by the current parameters and
added to the row of its user and the row of its item; a rating above one counts
with its value, all others as one. Renewing a side takes the counted shapes as its
shapes, empties the count, and takes new rates from the other side's means and its
own activity. Items are renewed from users that are already new.
-/

namespace PoissonFactor.Rows

variable {α : Type} [Scalar α] {users items k : Nat}

/-- Is a rating counted? -/
def counts (o : Observation α users items) : Bool :=
  Scalar.below Scalar.zero o.value

/-- With what weight a counted rating is shared out. -/
def weight (v : α) : α :=
  if Scalar.below Scalar.one v then v else Scalar.one

/-- The log-weights of the features for a user and an item: the expected logarithms of the two
parameters, added up. -/
def logWeights (s : State α users items k) (u : Fin users) (i : Fin items) : Vector α k :=
  Vector.ofFn fun j =>
    Scalar.digamma s.users.shape[u][j] - Scalar.log s.users.rate[u][j]
      + Scalar.digamma s.items.shape[i][j] - Scalar.log s.items.rate[i][j]

/-- How a rating is shared out among the features. -/
def shares (s : State α users items k) (o : Observation α users items) : Vector α k :=
  (softmaxRow (logWeights s o.user o.item)).map fun p => p * weight o.value

/-- Adds a row of shares to one row of a table. -/
def addRow {n : Nat} (t : Table α n k) (i : Fin n) (row : Vector α k) : Table α n k :=
  t.set i (Vector.zipWith (· + ·) t[i] row) i.isLt

/-- Counts the training ratings. All shares are taken before any is added. -/
def count (p : Problem α users items) (s : State α users items k) : State α users items k :=
  let shared := (p.train.filter counts).map fun o => (o, shares s o)
  { users := { s.users with
      counted := shared.foldl (fun t (o, row) => addRow t o.user row) s.users.counted }
    items := { s.items with
      counted := shared.foldl (fun t (o, row) => addRow t o.item row) s.items.counted } }

/-- Renews one side from the other. -/
def renew {n m : Nat} (prior : SidePrior α) (own : Factor α n k) (other : Factor α m k) :
    Factor α n k :=
  let sums : Vector α k := Vector.ofFn fun j => Scalar.total fun i : Fin m => other.mean i j
  let activity : Vector α n := Vector.ofFn fun i => own.activityShape[i] / own.activityRate[i]
  let rate : Table α n k := Table.ofFn fun i j => sums[j] + activity[i]
  { shape := own.counted
    rate
    activityShape := own.activityShape
    activityRate := Vector.ofFn fun i =>
      prior.activityShape / prior.activityRate
        + Scalar.total fun j : Fin k => own.counted[i][j] / rate[i][j]
    counted := Table.constant prior.shape }

/-- Renews the users. -/
def renewUsers (p : Problem α users items) (s : State α users items k) : State α users items k :=
  { s with users := renew p.userPrior s.users s.items }

/-- Renews the items. -/
def renewItems (p : Problem α users items) (s : State α users items k) : State α users items k :=
  { s with items := renew p.itemPrior s.items s.users }

/-- The activity shape that never changes: `activityShape + k · shape`. -/
def fixedShape (prior : SidePrior α) (k : Nat) : α :=
  prior.activityShape + Scalar.ofNat k * prior.shape

/-- Sets the activity shapes of both sides to their final values. -/
def fixActivity (p : Problem α users items) (s : State α users items k) :
    State α users items k :=
  { users := { s.users with activityShape := Vector.ofFn fun _ => fixedShape p.userPrior k }
    items := { s.items with activityShape := Vector.ofFn fun _ => fixedShape p.itemPrior k } }

/-- The rate of a pair: the sum over the features of the product of the means. -/
def pairRate (s : State α users items k) (u : Fin users) (i : Fin items) : α :=
  Scalar.total fun j : Fin k => s.users.mean u j * s.items.mean i j

/-- The log-likelihood of a held-out value at a rate. -/
def logLikelihood (hits : Bool) (value rate : α) : α :=
  if hits then
    if Scalar.equal value Scalar.zero then -rate
    else Scalar.log (-(Scalar.expm1 (-rate)))
  else value * Scalar.log rate - rate - Scalar.logGamma (value + Scalar.one)

/-- The mean log-likelihood of the held-out ratings. -/
def averageLogLikelihood (p : Problem α users items) (s : State α users items k) : α :=
  Scalar.sum (p.validation.map fun o =>
    logLikelihood p.hits o.value (pairRate s o.user o.item)) / Scalar.ofNat p.validation.length

end PoissonFactor.Rows
