import PoissonFactor.Random.Twister
import PoissonFactor.Decimal.Binary

/-!
# A seeded stream of numbers between zero and one

A permuted congruential generator: 128 bits of state step by a multiplication and
an addition, and a word of 64 bits is the exclusive or of the two halves rotated
by the top six bits. State and increment come from a seed through a pool of four
words that are hashed into one another. A draw is the top 53 bits of a word as a
fraction.
-/

namespace PoissonFactor.Random

/-- A hash of a row of words; its constant changes with every word. -/
structure Hash where
  constant : UInt32
  multiplier : UInt32

namespace Hash

/-- Folds the high half of a word into its low half. -/
def fold (x : UInt32) : UInt32 :=
  x ^^^ (x >>> 16)

/-- Hashes one word. -/
def apply (h : Hash) (x : UInt32) : UInt32 × Hash :=
  let constant := h.constant * h.multiplier
  (fold ((x ^^^ h.constant) * constant), { h with constant })

/-- Joins two words of the pool. -/
def join (x y : UInt32) : UInt32 :=
  fold (0xca01f9dd * x - 0x4973f715 * y)

/-- Hashes every word of a row in turn. -/
def applyAll (h : Hash) : List UInt32 → List UInt32 × Hash
  | [] => ([], h)
  | x :: xs =>
    let (y, h) := h.apply x
    let (ys, h) := applyAll h xs
    (y :: ys, h)

end Hash

/-- How many words the pool has. -/
def poolSize : Nat := 4

/-- Joins word `source` of the pool into every other word. -/
def stir (h : Hash) (pool : Array UInt32) (source : Nat) : Hash × Array UInt32 :=
  (List.range poolSize).foldl (fun (h, pool) target =>
    if target = source then (h, pool)
    else
      let (y, h) := h.apply (pool.getD source 0)
      (h, pool.setIfInBounds target (Hash.join (pool.getD target 0) y))) (h, pool)

/-- Joins one more word of a seed into every word of the pool. -/
def absorb (h : Hash) (pool : Array UInt32) (x : UInt32) : Hash × Array UInt32 :=
  (List.range poolSize).foldl (fun (h, pool) target =>
    let (y, h) := h.apply x
    (h, pool.setIfInBounds target (Hash.join (pool.getD target 0) y))) (h, pool)

/-- The pool of a seed. -/
def pool (seed : Nat) : Array UInt32 :=
  let words := Twister.seedWords seed
  let first := (words ++ List.replicate poolSize 0).take poolSize
  let (mixed, h) := Hash.applyAll ⟨0x43b0d7e5, 0x931e8875⟩ first
  let stirred := (List.range poolSize).foldl (fun (h, pool) i => stir h pool i) (h, mixed.toArray)
  ((words.drop poolSize).foldl (fun (h, pool) x => absorb h pool x) stirred).2

/-- The first `n` words that a pool yields. -/
def yielded (pool : Array UInt32) (n : Nat) : List UInt32 :=
  (Hash.applyAll ⟨0x8b51f9dd, 0x58f38ded⟩
    ((List.range n).map fun i => pool.getD (i % poolSize) 0)).1

/-- Words joined in pairs, the lower one first. -/
def pairs : List UInt32 → List Nat
  | low :: high :: rest => (high.toNat * 2 ^ 32 + low.toNat) :: pairs rest
  | _ => []

/-- The generator: its state and its increment, both below `2^128`. -/
structure Congruential where
  state : Nat
  increment : Nat

namespace Congruential

/-- The factor of a step. -/
def multiplier : Nat := 0x2360ed051fc65da44385df649fccf645

/-- One step. -/
def step (g : Congruential) : Congruential :=
  { g with state := (g.state * multiplier + g.increment) % 2 ^ 128 }

/-- The generator of a seed. -/
def ofSeed (seed : Nat) : Congruential :=
  match pairs (yielded (pool seed) 8) with
  | [a, b, c, d] =>
    let start := a * 2 ^ 64 + b
    let increment := (2 * (c * 2 ^ 64 + d) + 1) % 2 ^ 128
    let g := step { state := 0, increment }
    step { g with state := (g.state + start) % 2 ^ 128 }
  | _ => { state := 0, increment := 1 }

/-- The word of 64 bits that a state shows. -/
def output (state : Nat) : Nat :=
  let folded := (state / 2 ^ 64) ^^^ (state % 2 ^ 64)
  let turn := state / 2 ^ 122
  (folded / 2 ^ turn + folded * 2 ^ (64 - turn)) % 2 ^ 64

/-- The top 53 bits of the next word, and the generator after it. -/
def next (g : Congruential) : Nat × Congruential :=
  let g := g.step
  (output g.state / 2 ^ 11, g)

/-- The top 53 bits of the next `n` words. -/
def take : Nat → Congruential → List Nat
  | 0, _ => []
  | n + 1, g =>
    let (x, g) := g.next
    x :: take n g

end Congruential

/-- A negative or very large seed is folded into 64 bits. -/
def foldSeed (seed : Int) : Nat :=
  (seed % 2 ^ 64).toNat

/-- The first `n` draws of a seed, each a double in `[0, 1)`. -/
def uniform (seed : Int) (n : Nat) : List Float :=
  (Congruential.take n (Congruential.ofSeed (foldSeed seed))).map fun k =>
    Decimal.nearest false k (2 ^ 53)

end PoissonFactor.Random
