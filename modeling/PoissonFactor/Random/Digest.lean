import PoissonFactor.Power

/-!
# A digest of 512 bits

A text that seeds a stream is first made a number that depends on all of its bytes.
The bytes are padded to blocks of 128; eight words of 64 bits go through eighty rounds
for every block. All constants are fractional parts: of the square roots of the first
eight primes at the start, of the cube roots of the first eighty primes in the rounds.
-/

namespace PoissonFactor.Random.Digest

/-- The largest number with `bits` more bits below those of `r` whose `k`-th power is at most
`n`. -/
def rootFrom (k n : Nat) : Nat → Nat → Nat
  | 0, r => r
  | bits + 1, r =>
    let larger := r + 2 ^ bits
    rootFrom k n bits (if larger ^ k ≤ n then larger else r)

/-- The first 64 bits behind the point of the `k`-th root of a small number. -/
def rootFraction (k n : Nat) : UInt64 :=
  UInt64.ofNat (rootFrom k (n * 2 ^ (64 * k)) 80 0 % 2 ^ 64)

/-- The primes up to the eightieth. -/
def primes : List Nat :=
  (List.range 410).filter fun n => 2 ≤ n && (List.range n).all fun d => d < 2 || n % d != 0

/-- The constants of the rounds. -/
def roundConstants : List UInt64 :=
  primes.map (rootFraction 3)

/-- The eight words. -/
structure Words where
  a : UInt64
  b : UInt64
  c : UInt64
  d : UInt64
  e : UInt64
  f : UInt64
  g : UInt64
  h : UInt64

/-- A list of eight words. -/
def Words.toList (w : Words) : List UInt64 :=
  [w.a, w.b, w.c, w.d, w.e, w.f, w.g, w.h]

/-- The words of a list. -/
def Words.ofList (xs : List UInt64) : Words :=
  ⟨xs.getD 0 0, xs.getD 1 0, xs.getD 2 0, xs.getD 3 0, xs.getD 4 0, xs.getD 5 0, xs.getD 6 0,
    xs.getD 7 0⟩

/-- The words at the start. -/
def start : Words :=
  .ofList ((primes.take 8).map (rootFraction 2))

/-- A word turned right. -/
def turn (x : UInt64) (n : UInt64) : UInt64 :=
  (x >>> n) ||| (x <<< (64 - n))

/-- One round with its constant and its word of the block. -/
def round (w : Words) (constant word : UInt64) : Words :=
  let s := turn w.e 14 ^^^ turn w.e 18 ^^^ turn w.e 41
  let choice := (w.e &&& w.f) ^^^ (~~~w.e &&& w.g)
  let first := w.h + s + choice + constant + word
  let t := turn w.a 28 ^^^ turn w.a 34 ^^^ turn w.a 39
  let majority := (w.a &&& w.b) ^^^ (w.a &&& w.c) ^^^ (w.b &&& w.c)
  { a := first + t + majority, b := w.a, c := w.b, d := w.c, e := w.d + first, f := w.e, g := w.f,
    h := w.g }

/-- The number that bytes spell, the highest first. -/
def number (bytes : List UInt8) : Nat :=
  bytes.foldl (fun n b => n * 256 + b.toNat) 0

/-- The lowest `n` bytes of a number, the highest first. -/
def bytesOf (n x : Nat) : List UInt8 :=
  (List.range n).reverse.map fun i => UInt8.ofNat (x / 256 ^ i % 256)

/-- The eighty words of a block. -/
def schedule (block : List UInt8) : List UInt64 :=
  let first := (List.range 16).map fun i =>
    UInt64.ofNat (number ((block.drop (8 * i)).take 8))
  ((List.range 64).foldl (fun (ws : Array UInt64) i =>
    let x := ws.getD (i + 1) 0
    let y := ws.getD (i + 14) 0
    let s := turn x 1 ^^^ turn x 8 ^^^ (x >>> 7)
    let t := turn y 19 ^^^ turn y 61 ^^^ (y >>> 6)
    ws.push (ws.getD i 0 + s + ws.getD (i + 9) 0 + t)) first.toArray).toList

/-- The words after a block. -/
def absorb (w : Words) (block : List UInt8) : Words :=
  let w' := (List.zip roundConstants (schedule block)).foldl (fun w x => round w x.1 x.2) w
  .ofList (List.zipWith (· + ·) w.toList w'.toList)

/-- Bytes with a mark, zeros and their number of bits behind them. -/
def pad (bytes : List UInt8) : List UInt8 :=
  let zeros := (256 - (bytes.length + 17) % 128) % 128
  bytes ++ 0x80 :: (List.replicate zeros 0 ++ bytesOf 16 (8 * bytes.length))

/-- The blocks of padded bytes. -/
def blocks (bytes : List UInt8) : List (List UInt8) :=
  (List.range (bytes.length / 128)).map fun i => (bytes.drop (128 * i)).take 128

/-- The digest of bytes. -/
def digest (bytes : List UInt8) : List UInt8 :=
  ((blocks (pad bytes)).foldl absorb start).toList.flatMap fun x => bytesOf 8 x.toNat

/-- The number that bytes seed: they and their digest as one number. -/
def seed (bytes : List UInt8) : Nat :=
  number (bytes ++ digest bytes)

end PoissonFactor.Random.Digest
