import PoissonFactor.Power

/-!
# A seeded stream of 32-bit words

The Mersenne twister with 624 words of state, seeded from the 32-bit words of a
number. `next` gives a word and the generator that follows it, so a stream is a
function of its seed. `below` draws a number under a bound by taking as many high
bits as the bound needs and starting over when they are too large.
-/

namespace PoissonFactor.Random

/-- The generator: its words and how many of them are used up. -/
structure Twister where
  words : Array UInt32
  used : Nat

namespace Twister

/-- How many words the state has. -/
def size : Nat := 624

/-- The word at a position. -/
def word (words : Array UInt32) (i : Nat) : UInt32 :=
  words.getD i 0

/-- The words that a single word spreads to. -/
def spread (seed : UInt32) : Array UInt32 :=
  (List.range (size - 1)).foldl (fun words i =>
    let previous := word words i
    words.push ((1812433253 : UInt32) * (previous ^^^ (previous >>> 30)) + UInt32.ofNat (i + 1))) #[seed]

/-- The position after `i`; position zero is passed over and takes the last word. -/
def advance (words : Array UInt32) (i : Nat) : Array UInt32 × Nat :=
  if i + 1 < size then (words, i + 1)
  else (words.setIfInBounds 0 (word words (size - 1)), 1)

/-- Mixes the words of the seed in, `n` steps from position `i` with word `j` of the seed. -/
def mixSeed (seed : Array UInt32) : Nat → Nat → Nat → Array UInt32 → Array UInt32 × Nat
  | 0, i, _, words => (words, i)
  | n + 1, i, j, words =>
    let previous := word words (i - 1)
    let mixed := (word words i ^^^ ((previous ^^^ (previous >>> 30)) * 1664525))
      + seed.getD j 0 + UInt32.ofNat j
    let (words, i) := advance (words.setIfInBounds i mixed) i
    mixSeed seed n i (if j + 1 < seed.size then j + 1 else 0) words

/-- Mixes the words among themselves, `n` steps from position `i`. -/
def mixWords : Nat → Nat → Array UInt32 → Array UInt32
  | 0, _, words => words
  | n + 1, i, words =>
    let previous := word words (i - 1)
    let mixed := (word words i ^^^ ((previous ^^^ (previous >>> 30)) * 1566083941))
      - UInt32.ofNat i
    let (words, i) := advance (words.setIfInBounds i mixed) i
    mixWords n i words

/-- The 32-bit words of a number, the lowest first; zero has one word. -/
def seedWords (n : Nat) : List UInt32 :=
  if n < 2 ^ 32 then [UInt32.ofNat n]
  else UInt32.ofNat (n % 2 ^ 32) :: seedWords (n / 2 ^ 32)
termination_by n
decreasing_by omega

/-- The generator of a seed. -/
def ofSeed (n : Nat) : Twister :=
  let seed := (seedWords n).toArray
  let (words, i) := mixSeed seed (max size seed.size) 1 0 (spread 19650218)
  { words := (mixWords (size - 1) i words).setIfInBounds 0 0x80000000, used := size }

/-- The next round of words. -/
def renew (words : Array UInt32) : Array UInt32 :=
  (List.range size).foldl (fun words i =>
    let y := (word words i &&& 0x80000000) ||| (word words ((i + 1) % size) &&& 0x7fffffff)
    let twist : UInt32 := if y &&& 1 = 0 then 0 else 0x9908b0df
    words.setIfInBounds i (word words ((i + 397) % size) ^^^ (y >>> 1) ^^^ twist)) words

/-- Evens out the bits of a word. -/
def temper (y : UInt32) : UInt32 :=
  let y := y ^^^ (y >>> 11)
  let y := y ^^^ ((y <<< 7) &&& 0x9d2c5680)
  let y := y ^^^ ((y <<< 15) &&& 0xefc60000)
  y ^^^ (y >>> 18)

/-- The next word and the generator after it. -/
def next (t : Twister) : UInt32 × Twister :=
  let t := if t.used < size then t else { words := renew t.words, used := 0 }
  (temper (word t.words t.used), { t with used := t.used + 1 })

/-- How many draws that are too large are thrown away at most. Each has a chance below one
half, so the limit is never reached. -/
def patience : Nat := 4096

/-- A number below `n`, from the highest `bits` bits of each word. -/
def belowFrom (n bits : Nat) : Nat → Twister → Nat × Twister
  | 0, t => (0, t)
  | fuel + 1, t =>
    let (w, t) := t.next
    let r := w.toNat / 2 ^ (32 - bits)
    if r < n then (r, t) else belowFrom n bits fuel t

/-- A number below `n`, for `0 < n < 2^32`. -/
def below (n : Nat) (t : Twister) : Nat × Twister :=
  belowFrom n (n.log2 + 1) patience t

end Twister

end PoissonFactor.Random
