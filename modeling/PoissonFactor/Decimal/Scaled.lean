import PoissonFactor.Decimal.Binary

/-!
# Decimals read in double arithmetic

A table's decimals are read faster than exactly: up to seventeen digits are taken up
in a double, which is then multiplied or divided by one power of ten. Fifteen digits
with a small exponent come out exact; longer ones may be off in the last place.
-/

namespace PoissonFactor.Decimal

/-- The most digits that are taken up. -/
def takenDigits : Nat := 17

/-- The power `10^n` as a double. -/
def powerOfTen (n : Nat) : Float :=
  ofDecimal false 1 n

/-- Digits taken up in a double, the first ones first. -/
def takeUp (ds : List Char) : Float :=
  ds.foldl (fun x c => x * 10 + (c.toNat - 48).toFloat) 0

/-- A double times a power of ten; nothing when it is too large. -/
def scale? (x : Float) (exponent : Int) : Option Float :=
  let y :=
    if 308 < exponent then infinity
    else if 0 < exponent then x * powerOfTen exponent.toNat
    else if exponent < -616 then 0
    else if exponent < -308 then x / powerOfTen (-308 - exponent).toNat / powerOfTen 308
    else x / powerOfTen (-exponent).toNat
  if isFinite y then some y else none

/-- A sign, digits, an optional point with digits and an optional exponent as a double; nothing
when the text is of another form or the number is too large. -/
def readScaled? (negative : Bool) (whole fraction : List Char) (exponent : Int) : Option Float :=
  let taken := whole.take takenDigits
  let more := fraction.take (takenDigits - taken.length)
  let x := takeUp (taken ++ more)
  let left := (whole.length - taken.length : Nat)
  scale? (if negative then -x else x) (exponent + left - more.length)

end PoissonFactor.Decimal
