import PoissonFactor.Power

/-!
# Doubles as exact numbers

A finite double is `± m · 2^q` with `m` and `q` integers. `parts` takes a double
apart into that shape and `nearest` goes the other way: it turns a quotient of
natural numbers into the double closest to it, a tie going to the even
significand. Everything the library prints or reads about a double goes through
these two, so no digit of a result depends on a printing routine that the logic
cannot see.

The bit patterns of the positive doubles are ordered like their values, and
`m · 2^q` with `2^52 ≤ m` (or `q = -1074`) has the pattern
`(q + 1074) · 2^52 + m`. The formula survives `m = 2^53`: the carry lands in the
exponent field, which is why `nearest` needs no second normalisation.
-/

namespace PoissonFactor.Decimal

/-- What a double stands for. -/
inductive Parts where
  | nan
  | infinite (negative : Bool)
  /-- The number `± m · 2^q`. -/
  | finite (negative : Bool) (m : Nat) (q : Int)
deriving DecidableEq, Repr

/-- The exponent of the last binary place of the smallest doubles. -/
def leastExponent : Int := -1074

/-- The bit pattern of positive infinity. -/
def infinityBits : Nat := 2047 * 2 ^ 52

/-- Takes a double apart. -/
def parts (x : Float) : Parts :=
  let bits := x.toBits.toNat
  let negative := decide (2 ^ 63 ≤ bits)
  let e : Nat := bits / 2 ^ 52 % 2 ^ 11
  let f : Nat := bits % 2 ^ 52
  if e = 2047 then
    if f = 0 then .infinite negative else .nan
  else if e = 0 then .finite negative f leastExponent
  else .finite negative (f + 2 ^ 52) ((e : Int) - 1075)

/-- The quotient `n / d` rounded to a whole number, a half going to the even neighbour. -/
def roundEven (n d : Nat) : Nat :=
  let q := n / d
  let r := n % d
  if 2 * r < d then q
  else if d < 2 * r then q + 1
  else q + q % 2

/-- The double with this sign and this magnitude pattern. -/
def ofPattern (negative : Bool) (pattern : Nat) : Float :=
  Float.ofBits (UInt64.ofNat (if negative then 2 ^ 63 + pattern else pattern))

/-- Positive infinity. -/
def infinity : Float := ofPattern false infinityBits

/-- The value that is not a number. -/
def notANumber : Float := ofPattern false (2047 * 2 ^ 52 + 2 ^ 51)

/-- The exponent `e` with `2^e ≤ num / den < 2^(e+1)`, for positive `num` and `den`. -/
def binaryExponent (num den : Nat) : Int :=
  let e : Int := (num.log2 : Int) - den.log2
  -- `num / den` lies in `(2^(e-1), 2^(e+1))`
  let reached := if 0 ≤ e then den * 2 ^ e.toNat ≤ num else den ≤ num * 2 ^ (-e).toNat
  if reached then e else e - 1

/-- The magnitude pattern of the double nearest to `num / den`, for positive `den`. -/
def nearestPattern (num den : Nat) : Nat :=
  if num = 0 then 0
  else
    let q := max (binaryExponent num den - 52) leastExponent
    let m := if 0 ≤ q then roundEven num (den * 2 ^ q.toNat)
             else roundEven (num * 2 ^ (-q).toNat) den
    min infinityBits ((q - leastExponent).toNat * 2 ^ 52 + m)

/-- The double nearest to `± num / den`; a tie goes to the even significand, and what is
too large becomes infinite. -/
def nearest (negative : Bool) (num den : Nat) : Float :=
  ofPattern negative (nearestPattern num den)

/-- The double nearest to an integer. -/
def ofInteger (i : Int) : Float :=
  nearest (decide (i < 0)) i.natAbs 1

/-- The double nearest to `± digits · 10^exponent`. Far outside the range of doubles the
answer is known without forming the power. -/
def ofDecimal (negative : Bool) (digits : Nat) (exponent : Int) : Float :=
  let size : Int := (digits.log2 : Int)
  if digits = 0 then ofPattern negative 0
  else if 310 < exponent then ofPattern negative infinityBits
  -- `digits < 2^(size+1) ≤ 10^(size+1)`, so the number is below `10^(-400)`
  else if exponent + size + 1 < -400 then ofPattern negative 0
  else if 0 ≤ exponent then nearest negative (digits * 10 ^ exponent.toNat) 1
  else nearest negative digits (10 ^ (-exponent).toNat)

/-- The magnitude of a finite double as a quotient of natural numbers. -/
def quotient (m : Nat) (q : Int) : Nat × Nat :=
  if 0 ≤ q then (m * 2 ^ q.toNat, 1) else (m, 2 ^ (-q).toNat)

/-- Is the double finite? -/
def isFinite (x : Float) : Bool :=
  match parts x with
  | .finite .. => true
  | _ => false

/-- Is the double not a number? -/
def isNaN (x : Float) : Bool :=
  match parts x with
  | .nan => true
  | _ => false

/-- Does the double carry a minus sign? Negative zero does. -/
def isNegative (x : Float) : Bool :=
  decide (2 ^ 63 ≤ x.toBits.toNat)

end PoissonFactor.Decimal
