import PoissonFactor.Value.Order

/-!
# Identifiers and their row numbers

A `KeyIndex` numbers distinct identifiers from zero. `ofKeys` keeps the order it is
given and refuses a repetition; `fromKeys` sorts and drops repetitions, so that the
number of an identifier is its rank among the distinct ones, whatever the order
and multiplicity in which they came.
-/

namespace PoissonFactor

/-- Distinct identifiers in the order of their row numbers. -/
structure KeyIndex where
  keys : List Value
  distinct : keys.Pairwise fun a b => a.same b = false

namespace KeyIndex

/-- How many identifiers there are. -/
def size (index : KeyIndex) : Nat :=
  index.keys.length

/-- Numbers identifiers in the given order; they have to be distinct. -/
def ofKeys (keys : List Value) : Except Failure KeyIndex := do
  let keys ← keys.mapM Value.asKey
  if h : keys.Pairwise fun a b => a.same b = false then return ⟨keys, h⟩
  else .error .duplicateKeys

/-- Numbers the distinct identifiers of a list by their rank. -/
def fromKeys (keys : List Value) : Except Failure KeyIndex := do
  ofKeys (← Value.sortedKeys keys)

/-- Different integers are different keys. -/
theorem same_int (i j : Int) : (Value.int i).same (.int j) = decide (i = j) := by
  simp [Value.same, Value.parts?, Value.number?, Number.eq, Number.exact, Extended.eq]

/-- The index whose identifiers are the row numbers themselves. -/
def dense (n : Nat) : KeyIndex where
  keys := (List.range n).map fun i : Nat => .int i
  distinct := by
    rw [List.pairwise_map]
    refine List.Pairwise.imp ?_ List.pairwise_lt_range
    intro a b h
    rw [same_int, decide_eq_false_iff_not]
    omega

@[simp] theorem size_dense (n : Nat) : (dense n).size = n := by
  simp [dense, size]

/-- The row of an identifier, if it has one. -/
def find? (index : KeyIndex) (key : Value) : Option (Fin index.size) :=
  index.keys.findFinIdx? fun k => k.same key

/-- The row of an identifier. -/
def indexOf (index : KeyIndex) (key : Value) : Except Failure (Fin index.size) := do
  let key ← key.asKey
  match index.find? key with
  | some i => return i
  | none => .error (.unknownKey key.shown)

/-- Does the index number this identifier? -/
def contains (index : KeyIndex) (key : Value) : Except Failure Bool := do
  let key ← key.asKey
  return (index.find? key).isSome

/-- The identifier of a row; a negative number counts from the end. -/
def keyOf (index : KeyIndex) (row : Int) : Except Failure Value :=
  let position := if row < 0 then row + index.size else row
  if position < 0 then .error .positionOutOfRange
  else
    match index.keys[position.toNat]? with
    | some key => .ok key
    | none => .error .positionOutOfRange

/-- The identifier of a row given by a value, which has to be an integer or a flag; an integer
beyond 64 bits is no position at all. -/
def keyAt (index : KeyIndex) (row : Value) : Except Failure Value :=
  match row with
  | .int i => if i.natAbs < 2 ^ 63 then index.keyOf i else .error .positionTooLarge
  | .bool b => index.keyOf (if b then 1 else 0)
  | v => .error (.badPosition v.kind)

end KeyIndex

end PoissonFactor
