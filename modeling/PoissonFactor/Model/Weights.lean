import PoissonFactor.Model.Softmax
import PoissonFactor.Value.Numeral

/-!
# Arrays of log-weights

Log-weights may come as a nested array of any depth. An array of one level is one
row and an array of two levels is a list of rows. Deeper arrays are taken up along
their second level, as many entries of it as the last level has.
-/

namespace PoissonFactor

/-- An array: its sizes, level by level, and its entries in order. -/
structure Grid (α : Type) where
  shape : List Nat
  entries : List α

namespace Grid

mutual

/-- The sizes of a nested array, if its parts agree. -/
def shape? : Value → Option (List Nat)
  | .list items | .tuple items =>
    match shapes? items with
    | some [] => some [0]
    | some (s :: rest) => if rest.all (· == s) then some (items.length :: s) else none
    | none => none
  | _ => some []

/-- The sizes of every part. -/
def shapes? : List Value → Option (List (List Nat))
  | [] => some []
  | v :: rest =>
    match shape? v, shapes? rest with
    | some s, some ss => some (s :: ss)
    | _, _ => none

end

mutual

/-- The entries of a nested array as doubles; an absent entry is no number. -/
def leaves : Value → Except Failure (List Float)
  | .list items | .tuple items => leavesOf items
  | .null => .ok [Decimal.notANumber]
  | v => do return [← v.toFloat]

/-- The entries of every part. -/
def leavesOf : List Value → Except Failure (List Float)
  | [] => .ok []
  | v :: rest => do
    let xs ← leaves v
    return xs ++ (← leavesOf rest)

end

/-- The array of a nested value. -/
def ofValue (v : Value) : Except Failure (Grid Float) :=
  match shape? v with
  | none => .error .ragged
  | some shape => do return { shape, entries := ← leaves v }

/-- Cuts a list into pieces of a positive length. -/
def pieces {α : Type} (size : Nat) (xs : List α) : List (List α) :=
  if _h : 0 < size ∧ xs ≠ [] then xs.take size :: pieces size (xs.drop size)
  else []
termination_by xs.length
decreasing_by
  have := List.length_pos_iff.2 _h.2
  simp
  omega

variable {α : Type} [Scalar α]

/-- The probabilities of one part of a deep array: `width` entries of its second level are
summed, each an array of `inner` entries. -/
def normalizeBlocks (width inner : Nat) (part : List α) : List α :=
  let blocks := pieces inner part
  match blocks.take width with
  | [] => []
  | b :: rest =>
    let sums := rest.foldl (List.zipWith logAdd) b
    blocks.flatMap fun block => List.zipWith (fun x s => Scalar.exp (x - s)) block sums

/-- The first entry of the second level that is asked for and missing. -/
def missingEntry? (width size : Nat) : Option Nat :=
  if size < max width 1 then some size else none

/-- The probabilities of an array of rows or of a deeper array; `missing` is the failure when
its second level is too short. -/
def normalizeLevels (missing : Nat → Nat → Failure) (g : Grid α) (size : Nat)
    (inner : List Nat) : Except Failure (Grid α) :=
  let width := inner.getLast?.getD size
  if width = 1 then .ok { g with entries := g.entries.map fun _ => Scalar.one }
  else
    match missingEntry? width size with
    | some i => .error (missing i size)
    | none =>
      let n := inner.foldl (· * ·) 1
      match inner with
      | [] => .ok { g with entries := (pieces size g.entries).flatMap softmax }
      | _ => .ok { g with entries := (pieces (size * n) g.entries).flatMap (normalizeBlocks width n) }

/-- The probabilities of an array of log-weights. A single number counts as one row of one
weight. -/
def normalize (g : Grid α) : Except Failure (Grid α) :=
  match g.shape with
  | [] => .ok { shape := [1, 1], entries := g.entries.map fun _ => Scalar.one }
  | [n] =>
    if n = 0 then .error (.axisOutOfBounds 0 1 0)
    else .ok { g with entries := softmax g.entries }
  | _ :: size :: inner => normalizeLevels (fun i n => .axisOutOfBounds i 1 n) g size inner

/-- The probabilities of an array that has at least two levels, unless its last level has one
entry. -/
def normalizeRows (g : Grid α) : Except Failure (Grid α) :=
  match g.shape with
  | [] => .error .positionOutOfRange
  | [n] =>
    if n = 1 then .ok { g with entries := g.entries.map fun _ => Scalar.one }
    else .error (.tooManyIndices 1)
  | _ :: size :: inner => normalizeLevels (fun i n => .dimensionOutOfBounds i 1 n) g size inner

end Grid

end PoissonFactor
