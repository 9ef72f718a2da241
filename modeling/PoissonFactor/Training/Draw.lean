import PoissonFactor.Model.Special
import PoissonFactor.Random.Uniform
import PoissonFactor.Training.Settings
import PoissonFactor.Model.Start

/-!
# Drawing a start without a trainer

The start of a fit for any priors and sizes, without the checks that making a trainer
runs: a prior may be negative, and an offset infinite.
-/

namespace PoissonFactor

/-- A size that is not negative. -/
def naturalSize (v : Value) : Except Failure Nat :=
  match v with
  | .int n => if 0 ≤ n then .ok n.toNat else .error .negativeDimension
  | .bool b => .ok (if b then 1 else 0)
  | v => .error (.notACount v.kind)

/-- A number as a double. -/
def doubleOf (v : Value) : Except Failure Float := do
  (← v.comparable).toFloat?

/-- The start for given priors, sizes, seed and offsets. -/
def drawStart (hyper : HyperSettings) (users items seed offsetShape offsetRate : Value) :
    Except Failure ((u : Nat) × (i : Nat) × (k : Nat) × State Float u i k) := do
  let seed ← seed.toInt
  let k ← naturalSize hyper.featureCount
  let u ← naturalSize users
  let i ← naturalSize items
  let prior ← hyper.priors.mapM fun _ v => doubleOf v
  let problem : Problem Float u i := {
    userPrior := { shape := prior.a, activityShape := prior.aPrime, activityRate := prior.bPrime }
    itemPrior := { shape := prior.c, activityShape := prior.cPrime, activityRate := prior.dPrime }
    offsetShape := ← doubleOf offsetShape
    offsetRate := ← doubleOf offsetRate
    train := []
    validation := []
    hits := true }
  let drawn := (Random.uniform seed ((u + i) * rowDraws k)).toArray
  return ⟨u, i, k, .start problem (fun j => drawn.getD j 0) k⟩

end PoissonFactor
