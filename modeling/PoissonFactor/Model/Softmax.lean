import PoissonFactor.Model.Scalar

/-!
# From logarithms of weights to probabilities

The logarithm of a sum of exponentials is taken up from left to right by
`L = max + log (1 + exp (min - max))`, so that no exponential of a large number is
ever formed. A row of weights is then divided by its sum. One weight alone always
has probability one.
-/

namespace PoissonFactor

variable {α : Type} [Scalar α]

/-- The logarithm of `exp x + exp y`. -/
def logAdd (x y : α) : α :=
  let high := Scalar.larger x y
  let low := Scalar.smaller x y
  high + Scalar.log1p (Scalar.exp (low - high))

/-- The logarithm of the sum of the exponentials of a row. -/
def logSum : List α → α
  | [] => Scalar.zero
  | x :: xs => xs.foldl logAdd x

/-- The probabilities of a row of log-weights. -/
def softmax (xs : List α) : List α :=
  if xs.length = 1 then xs.map fun _ => Scalar.one
  else
    let total := logSum xs
    xs.map fun x => Scalar.exp (x - total)

/-- The probabilities of a row of `k` log-weights. -/
def softmaxRow {k : Nat} (row : Vector α k) : Vector α k :=
  if k = 1 then Vector.ofFn fun _ => Scalar.one
  else
    let total := logSum row.toList
    row.map fun x => Scalar.exp (x - total)

end PoissonFactor
