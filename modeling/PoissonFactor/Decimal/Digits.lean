import PoissonFactor.Decimal.Binary

/-!
# Decimal digits of a double

A `Digits` value is a run of decimal digits with a position: the number
`d · 10^p`. Three ways to choose one for a positive double:

* `shortest` — the fewest digits that still read back as the same double, and of
  those the nearest;
* `significant n` — exactly `n` digits, nearest, a half going to the even digit;
* `places n` — as many digits as reach the `n`-th decimal place.

All three work on the exact value `m · 2^q` in natural-number arithmetic.
-/

namespace PoissonFactor.Decimal

/-- The number `digits · 10^exponent`. -/
structure Digits where
  digits : Nat
  exponent : Int
deriving DecidableEq, Repr

/-- How many decimal digits a number has; zero has none. -/
def digitCount (n : Nat) : Nat :=
  if n = 0 then 0 else digitCount (n / 10) + 1
termination_by n
decreasing_by omega

/-- The `k` with `10^(k-1) ≤ num / den < 10^k`, for positive `num` and `den`. -/
def decimalPoint (num den : Nat) : Int :=
  if den ≤ num then digitCount (num / den)
  else 1 - (digitCount ((den + num - 1) / num - 1) : Int)

/-- The quotient `num / (den · 10^p)` as numerator and denominator. -/
def scaled (num den : Nat) (p : Int) : Nat × Nat :=
  if 0 ≤ p then (num, den * 10 ^ p.toNat) else (num * 10 ^ (-p).toNat, den)

/-- The same number without trailing zeros, dropping at most `n` of them. -/
def Digits.trim : Nat → Digits → Digits
  | 0, d => d
  | n + 1, d =>
    if d.digits ≠ 0 ∧ d.digits % 10 = 0 then
      Digits.trim n { digits := d.digits / 10, exponent := d.exponent + 1 }
    else d

/-- Does `d · 10^p` read back as the double `m · 2^q`? The reals that do form an interval
that reaches half way to each neighbour, with its ends when `m` is even. Below a power of
two the neighbour is twice as near. -/
def readsBack (m : Nat) (q : Int) (d : Nat) (p : Int) : Bool :=
  -- both sides in units of `2^(q-2) · 10^(min p 0)`
  let (a, b) := quotient 1 (q - 2)
  let (num, den) := if 0 ≤ p then (d * 10 ^ p.toNat * b, a) else (d * b, 10 ^ (-p).toNat * a)
  let low := if m = 2 ^ 52 ∧ leastExponent < q then 4 * m - 1 else 4 * m - 2
  let high := 4 * m + 2
  if m % 2 = 0 then decide (low * den ≤ num ∧ num ≤ high * den)
  else decide (low * den < num ∧ num < high * den)

/-- The digits of `m · 2^q` on the grid of `n` significant digits, if one of the value's two
neighbours there reads back; the nearer one when both do. -/
def onGrid (m : Nat) (q : Int) (n : Nat) : Option Digits :=
  let (num, den) := quotient m q
  let p := decimalPoint num den - n
  let (a, b) := scaled num den p
  let d := a / b
  let nearer := roundEven a b
  let other := if nearer = d then d + 1 else d
  if readsBack m q nearer p then some ⟨nearer, p⟩
  else if readsBack m q other p then some ⟨other, p⟩
  else none

/-- The first of the grids with `n`, `n + 1`, … digits that holds a number which reads back.
Seventeen digits always suffice. -/
def shortestFrom (m : Nat) (q : Int) (n : Nat) : Nat → Digits
  | 0 =>
    let (num, den) := quotient m q
    let p := decimalPoint num den - n
    let (a, b) := scaled num den p
    ⟨roundEven a b, p⟩
  | fuel + 1 =>
    match onGrid m q n with
    | some d => d
    | none => shortestFrom m q (n + 1) fuel

/-- The fewest digits that read back as `m · 2^q`, for positive `m`. -/
def shortest (m : Nat) (q : Int) : Digits :=
  (shortestFrom m q 1 16).trim 17

/-- The value `m · 2^q` to `n` significant digits, for positive `m`. -/
def significant (m : Nat) (q : Int) (n : Nat) : Digits :=
  let (num, den) := quotient m q
  let p := decimalPoint num den - n
  let (a, b) := scaled num den p
  ⟨roundEven a b, p⟩

/-- The value `m · 2^q` to `n` decimal places. -/
def places (m : Nat) (q : Int) (n : Nat) : Digits :=
  let (num, den) := quotient m q
  ⟨roundEven (num * 10 ^ n) den, -(n : Int)⟩

/-- A double rounded to `n` significant digits and read back. -/
def roundSignificant (n : Nat) (x : Float) : Float :=
  match parts x with
  | .finite negative m q =>
    if m = 0 then x
    else
      let d := significant m q n
      ofDecimal negative d.digits d.exponent
  | _ => x

/-- A double rounded to `n` decimal places and read back. -/
def roundPlaces (n : Nat) (x : Float) : Float :=
  match parts x with
  | .finite negative m q =>
    let d := places m q n
    ofDecimal negative d.digits d.exponent
  | _ => x

end PoissonFactor.Decimal
