/-!
# The arithmetic of the model

The model is written once over any type with these operations. It runs over the
doubles and is reasoned about over the reals, so no formula appears twice. The
comparisons are decisions: over the doubles a value that is no number compares
with nothing.
-/

namespace PoissonFactor

/-- The operations the model needs. -/
class Scalar (α : Type) extends Add α, Sub α, Mul α, Div α, Neg α where
  ofNat : Nat → α
  exp : α → α
  log : α → α
  /-- `log (1 + x)`. -/
  log1p : α → α
  /-- `exp x - 1`. -/
  expm1 : α → α
  /-- The derivative of `logGamma`. -/
  digamma : α → α
  /-- The logarithm of the size of the gamma function. -/
  logGamma : α → α
  abs : α → α
  larger : α → α → α
  smaller : α → α → α
  below : α → α → Bool
  atMost : α → α → Bool
  equal : α → α → Bool
  isFinite : α → Bool
  /-- The change a run starts from is measured against this value. -/
  largest : α

-- A type with an arithmetic of its own keeps it.
attribute [instance (50)] Scalar.toAdd Scalar.toSub Scalar.toMul Scalar.toDiv Scalar.toNeg

namespace Scalar

variable {α : Type} [Scalar α]

/-- Zero. -/
def zero : α := ofNat 0

/-- One. -/
def one : α := ofNat 1

/-- Is the value finite and above zero? -/
def isPositive (x : α) : Bool :=
  isFinite x && !atMost x zero

/-- The sum of a row of values. -/
def sum (xs : List α) : α :=
  xs.foldl (· + ·) zero

/-- The sum of a value for every index. -/
def total {n : Nat} (f : Fin n → α) : α :=
  Fin.foldl n (fun s i => s + f i) zero

end Scalar

end PoissonFactor
