import PoissonFactor.Failure
import PoissonFactor.Value.Basic

/-!
# Exact numbers

A number of the settings is an integer of any size or a double. Both have an exact
value, and numbers are compared by it: `2^53 + 1` lies above the double `2^53`
although the nearest double to it does not. A value that is not a number compares
with nothing.
-/

namespace PoissonFactor

/-- A real number with the two infinities, or no number at all. -/
inductive Extended where
  | nan
  | negative
  | finite (r : Rat)
  | positive
deriving DecidableEq

namespace Extended

/-- The strict order; nothing compares with the value that is no number. -/
def lt : Extended → Extended → Bool
  | .nan, _ | _, .nan => false
  | .finite a, .finite b => decide (a < b)
  | .negative, .negative => false
  | .negative, _ => true
  | _, .negative => false
  | .positive, _ => false
  | _, .positive => true

/-- Equality of numbers; the value that is no number differs from itself. -/
def eq : Extended → Extended → Bool
  | .finite a, .finite b => decide (a = b)
  | .negative, .negative => true
  | .positive, .positive => true
  | _, _ => false

/-- The weak order. -/
def le (a b : Extended) : Bool :=
  a.lt b || a.eq b

end Extended

/-- The exact value of a double. -/
def exactValue (x : Float) : Extended :=
  match Decimal.parts x with
  | .nan => .nan
  | .infinite true => .negative
  | .infinite false => .positive
  | .finite negative m q =>
    let (num, den) := Decimal.quotient m q
    .finite (mkRat (if negative then -(num : Int) else num) den)

/-- An integer of any size or a double. -/
inductive Number where
  | int (i : Int)
  | float (x : Float)
deriving DecidableEq

namespace Number

/-- The exact value of a number. -/
def exact : Number → Extended
  | .int i => .finite i
  | .float x => exactValue x

/-- The strict order of exact values. -/
def lt (a b : Number) : Bool := a.exact.lt b.exact

/-- The weak order of exact values. -/
def le (a b : Number) : Bool := a.exact.le b.exact

/-- Equality of exact values. -/
def eq (a b : Number) : Bool := a.exact.eq b.exact

/-- The number without its sign. -/
def abs : Number → Number
  | .int i => .int i.natAbs
  | .float x => .float x.abs

/-- How a number is shown. -/
def shown : Number → String
  | .int i => toString i
  | .float x => Decimal.plain x

/-- The double nearest to a number, if it is within range. -/
def toFloat? : Number → Except Failure Float
  | .float x => .ok x
  | .int i =>
    let x := Decimal.ofInteger i
    if Decimal.isFinite x then .ok x else .error .integerTooLarge

/-- The whole part of a number. -/
def truncate? : Number → Except Failure Int
  | .int i => .ok i
  | .float x =>
    match Decimal.parts x with
    | .nan => .error .integerOfNaN
    | .infinite _ => .error .integerOfInfinity
    | .finite negative m q =>
      let (num, den) := Decimal.quotient m q
      .ok (if negative then -((num / den : Nat) : Int) else (num / den : Nat))

/-- The sum: exact for integers, rounded when a double takes part. -/
def add : Number → Number → Except Failure Number
  | .int a, .int b => .ok (.int (a + b))
  | a, b => do return .float ((← a.toFloat?) + (← b.toFloat?))

/-- The product: exact for integers, rounded when a double takes part. -/
def mul : Number → Number → Except Failure Number
  | .int a, .int b => .ok (.int (a * b))
  | a, b => do return .float ((← a.toFloat?) * (← b.toFloat?))

/-- The quotient of two integers or doubles as a double. -/
def div (a b : Number) : Except Failure Float := do
  return (← a.toFloat?) / (← b.toFloat?)

end Number

namespace Value

/-- The number a value stands for: a flag counts as zero or one. -/
def number? : Value → Option Number
  | .bool b => some (.int (if b then 1 else 0))
  | .int i => some (.int i)
  | .float x => some (.float x)
  | _ => none

/-- A number as a value. -/
def ofNumber : Number → Value
  | .int i => .int i
  | .float x => .float x

/-- The number of a value that takes part in a comparison with a number. -/
def comparable (v : Value) : Except Failure Number :=
  match v.number? with
  | some n => .ok n
  | none => .error .incomparable

/-- Is the value an integer? A flag is not. -/
def integer? : Value → Option Int
  | .int i => some i
  | _ => none

end Value

end PoissonFactor
