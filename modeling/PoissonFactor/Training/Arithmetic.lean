import PoissonFactor.Random.Uniform
import PoissonFactor.Ratings.Split
import PoissonFactor.Training.Loop
import PoissonFactor.Training.Stopping

/-!
# The numbers of a fit

Rows and settings are read as doubles, and a fit computes with them. Besides its operations
a fit takes little from its numbers: how a double is read, where the draws of a seed come
from, how a change is compared with a threshold, and how an evaluation is reported. With
these four as an `Arithmetic` the whole way is written once; it runs over the doubles and is
reasoned about over the reals.
-/

namespace PoissonFactor

/-- What a fit takes from its numbers besides their operations. -/
structure Arithmetic (α : Type) where
  ofDouble : Float → α
  /-- The draws of a seed, when there are so many of them, by their positions. -/
  draw : Int → Nat → Nat → α
  /-- Is the size of a change at a threshold or below? -/
  within : α → Number → Except Failure Bool
  /-- What is reported about an evaluation. -/
  line : Evaluation α → String

namespace Arithmetic

/-- A number of the settings. An integer beyond the doubles has no reading. -/
def read {α : Type} (A : Arithmetic α) (n : Number) : Except Failure α := do
  return A.ofDouble (← n.toFloat?)

/-- What is reported about an evaluation over doubles. -/
def evaluationLine (e : Evaluation Float) : String :=
  "iteration " ++ toString e.iteration ++ ": avg_pll=" ++ Decimal.fixed 6 e.likelihood ++ " change="
    ++ Decimal.general 6 e.change

/-- The doubles themselves. -/
def doubles : Arithmetic Float where
  ofDouble x := x
  draw seed count :=
    let drawn := (Random.uniform seed count).toArray
    fun i => drawn.getD i 0
  within := changeWithin
  line := evaluationLine

end Arithmetic

/-- A rating with its value read. -/
def Observation.readBy {α β : Type} {users items : Nat} (read : α → β)
    (o : Observation α users items) : Observation β users items where
  user := o.user
  item := o.item
  value := read o.value

end PoissonFactor
