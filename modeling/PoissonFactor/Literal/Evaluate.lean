import PoissonFactor.Literal.Expr
import PoissonFactor.Value.Order

/-!
# The value of a literal

`read` gives the value that a text spells, or nothing when the text is no literal.
Two faults are more than a text that is no literal: a member or key that is
mutable, and an integer beyond the doubles as part of a complex number. They are
reported when evaluation, from left to right, meets them first.
-/

namespace PoissonFactor.Literal

variable [Text.CharacterNames]

/-- Why a shape has no value. -/
inductive Fault where
  /-- The shape is no literal. -/
  | malformed
  | refused (cause : Failure)

/-- Passes a refusal on. -/
def lift {α : Type} : Except Failure α → Except Fault α
  | .ok a => .ok a
  | .error cause => .error (.refused cause)

/-- The number with this sign. A flag is no number here. -/
def signedValue (negative : Bool) : Value → Except Fault Value
  | .int i => .ok (.int (if negative then -i else i))
  | .float x => .ok (.float (if negative then -x else x))
  | .complex re im => .ok (if negative then .complex (-re) (-im) else .complex re im)
  | _ => .error .malformed

/-- The number of a constant with at most one sign before it. -/
def signedNumber : Expr → Except Fault Value
  | .constant v => signedValue false v
  | .signed negative (.constant v) => signedValue negative v
  | _ => .error .malformed

/-- A real number and an imaginary one as a complex number. -/
def complexSum (negative : Bool) (left : Value) (re im : Float) : Except Fault Value :=
  match left with
  | .int _ | .float _ => do
    let x ← lift left.toFloat
    return if negative then .complex (x - re) (0 - im) else .complex (x + re) (0 + im)
  | _ => .error .malformed

mutual

/-- The value of a shape. -/
def evaluate : Expr → Except Fault Value
  | .constant v => .ok v
  | .unknown => .error .malformed
  | .signed negative e =>
    match e with
    | .constant v => signedValue negative v
    | _ => .error .malformed
  | .sum negative left right => do
    let l ← signedNumber left
    match right with
    | .constant (.complex re im) => complexSum negative l re im
    | _ => .error .malformed
  | .tuple items => do return .tuple (← evaluateItems items)
  | .list items => do return .list (← evaluateItems items)
  | .set items => do return .set (← evaluateMembers [] items)
  | .dict entries => do return .dict (← evaluateEntries [] entries)

/-- The values of the members of a row. -/
def evaluateItems : List Expr → Except Fault (List Value)
  | [] => .ok []
  | e :: rest => do
    let v ← evaluate e
    return v :: (← evaluateItems rest)

/-- The members of a set, each refused as soon as it cannot be one. -/
def evaluateMembers (found : List Value) : List Expr → Except Fault (List Value)
  | [] => .ok found
  | e :: rest => do
    let v ← evaluate e
    let v ← lift v.asKey
    evaluateMembers (Value.insertMember v found) rest

/-- The entries of a mapping: a key keeps its first spelling and its last value. -/
def evaluateEntries (found : List (Value × Value)) :
    List (Expr × Expr) → Except Fault (List (Value × Value))
  | [] => .ok found
  | (k, e) :: rest => do
    let k ← evaluate k
    let v ← evaluate e
    let k ← lift k.asKey
    evaluateEntries (Value.insertEntry k v found) rest

end

/-- The value that a text spells, if it is a literal. -/
def read (cs : List Char) : Except Failure (Option Value) :=
  match parse cs with
  | none => .ok none
  | some e =>
    match evaluate e with
    | .ok v => .ok (some v)
    | .error .malformed => .ok none
    | .error (.refused cause) => .error cause

end PoissonFactor.Literal
