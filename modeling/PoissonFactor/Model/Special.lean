import PoissonFactor.Decimal.Binary
import PoissonFactor.Model.Scalar

/-!
# The model's functions over the doubles

`exp x - 1` and `log (1 + x)` near zero are taken from the rounded `exp x` and
`1 + x` and corrected by the rounding that actually happened. The digamma and
log-gamma functions move their argument up by their recurrences and sum an
asymptotic series there; a negative argument is reflected first.
-/

namespace PoissonFactor.Special

/-- The number π. -/
def pi : Float := 3.141592653589793

/-- Half the logarithm of 2π. -/
def halfLogTau : Float := 0.9189385332046727

/-- `log (1 + x)` without loss near zero. -/
def log1p (x : Float) : Float :=
  let u := 1 + x
  if u == 1 then x
  else if x == 1 / 0 then x
  else Float.log u * (x / (u - 1))

/-- `exp x - 1` without loss near zero. -/
def expm1 (x : Float) : Float :=
  let u := Float.exp x
  if u == 1 then x
  else if u - 1 == -1 then -1
  else if u == 1 / 0 then u
  else (u - 1) * (x / Float.log u)

/-- The value of a polynomial from its coefficients, the constant first. -/
def polynomial (coefficients : List Float) (x : Float) : Float :=
  coefficients.foldr (fun c s => c + x * s) 0

/-- Where the asymptotic series begin to be used. -/
def seriesStart : Float := 12

/-- The asymptotic series of digamma for large arguments. -/
def digammaSeries (x : Float) : Float :=
  let z := 1 / (x * x)
  Float.log x - 0.5 / x
    - z * polynomial [1 / 12, -1 / 120, 1 / 252, -1 / 240, 1 / 132, -691 / 32760, 1 / 12] z

/-- Digamma of a positive argument, moved up by `digamma (x + 1) = digamma x + 1 / x` at most
`fuel` times. -/
def digammaUp : Nat → Float → Float
  | 0, x => digammaSeries x
  | fuel + 1, x => if x < seriesStart then digammaUp fuel (x + 1) - 1 / x else digammaSeries x

/-- The part of a double after the point, with its sign. -/
def fraction (x : Float) : Float :=
  if x < 0 then x - x.ceil else x - x.floor

/-- The digamma function. It has no value at the negative integers. -/
def digamma (x : Float) : Float :=
  if x == 0 then (-1) / x
  else if x < 0 then
    let r := fraction x
    if r == 0 || !Decimal.isFinite x then Decimal.notANumber
    else digammaUp 12 (1 - x) - pi / Float.tan (pi * r)
  else digammaUp 12 x

/-- The asymptotic series of log-gamma for large arguments. -/
def logGammaSeries (x : Float) : Float :=
  let z := 1 / (x * x)
  (x - 0.5) * Float.log x - x + halfLogTau
    + polynomial [1 / 12, -1 / 360, 1 / 1260, -1 / 1680, 1 / 1188, -691 / 360360] z / x

/-- Log-gamma of a positive argument, moved up by `Γ (x + 1) = x · Γ x` at most `fuel` times;
`product` holds the factors so far. -/
def logGammaUp : Nat → Float → Float → Float
  | 0, product, x => logGammaSeries x - Float.log product
  | fuel + 1, product, x =>
    if x < seriesStart then logGammaUp fuel (product * x) (x + 1)
    else logGammaSeries x - Float.log product

/-- The product `1 · 2 ⋯ n`. -/
def factorial (n : Nat) : Float :=
  (List.range n).foldl (fun p i => p * (i + 1).toFloat) 1

/-- The logarithm of the size of the gamma function. It is infinite at zero and the negative
integers. -/
def logGamma (x : Float) : Float :=
  if Decimal.isNaN x then x
  else if !Decimal.isFinite x then 1 / 0
  else if x ≤ 0 && fraction x == 0 then 1 / 0
  else if x < 0.5 then
    Float.log (pi / (Float.sin (pi * fraction x)).abs) - logGammaUp 12 1 (1 - x)
  else if x ≤ 20 && fraction x == 0 then Float.log (factorial (x.toUInt64.toNat - 1))
  else logGammaUp 12 1 x

/-- The larger of two doubles; a value that is no number wins. -/
def larger (x y : Float) : Float :=
  if Decimal.isNaN x then x
  else if Decimal.isNaN y then y
  else if x < y then y else x

/-- The smaller of two doubles; a value that is no number wins. -/
def smaller (x y : Float) : Float :=
  if Decimal.isNaN x then x
  else if Decimal.isNaN y then y
  else if y < x then y else x

/-- The largest finite double. -/
def largest : Float := Decimal.ofPattern false (Decimal.infinityBits - 1)

end PoissonFactor.Special

namespace PoissonFactor

instance : Scalar Float where
  ofNat n := n.toFloat
  exp := Float.exp
  log := Float.log
  log1p := Special.log1p
  expm1 := Special.expm1
  digamma := Special.digamma
  logGamma := Special.logGamma
  abs := Float.abs
  larger := Special.larger
  smaller := Special.smaller
  below x y := x < y
  atMost x y := x ≤ y
  equal x y := x == y
  isFinite := Decimal.isFinite
  largest := Special.largest

end PoissonFactor
