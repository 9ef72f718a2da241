import PoissonFactor.Model.State

/-!
# The random start

A fit starts from the priors plus random offsets. The draws come from one stream:
for every user in turn a shape and a rate draw for each feature and one draw for the
activity shape, then the same for every item. A row therefore uses `2 · k + 1` draws
in sequence, and the place of each is known from the row alone.
-/

namespace PoissonFactor

variable {α : Type} [Scalar α]

/-- How many draws a row uses. -/
def rowDraws (k : Nat) : Nat := 2 * k + 1

/-- The start of one side; its first row uses the draws from `base` on. -/
def Factor.start (prior : SidePrior α) (offsetShape offsetRate : α) (draw : Nat → α)
    (base n k : Nat) : Factor α n k where
  shape := Table.ofFn fun i j =>
    prior.shape + offsetShape * draw (base + i * rowDraws k + 2 * j)
  rate := Table.ofFn fun i j =>
    prior.activityShape + offsetRate * draw (base + i * rowDraws k + (2 * j + 1))
  activityShape := Vector.ofFn fun i =>
    prior.activityShape + offsetShape * draw (base + i * rowDraws k + 2 * k)
  activityRate := Vector.ofFn fun _ => prior.activityShape + Scalar.ofNat k
  counted := Table.constant prior.shape

/-- The start of a fit. -/
def State.start {users items : Nat} (p : Problem α users items) (draw : Nat → α) (k : Nat) :
    State α users items k where
  users := .start p.userPrior p.offsetShape p.offsetRate draw 0 users k
  items := .start p.itemPrior p.offsetShape p.offsetRate draw (users * rowDraws k) items k

end PoissonFactor
