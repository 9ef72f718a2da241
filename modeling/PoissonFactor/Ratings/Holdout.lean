import PoissonFactor.Random.Digest
import PoissonFactor.Random.Shuffle
import PoissonFactor.Ratings.Split

/-!
# Holding out a part of the ratings

A share of the rows, chosen by a seeded shuffle of their positions, is held out for
validation. At least one row is held out and at least one stays, except that a
single row stays. Which positions are held out depends on the number of rows, the
share and the seed, never on what the rows hold; both indexes cover all rows.
-/

namespace PoissonFactor

/-- A row of ratings with the identifiers it came with. A field may be missing. -/
structure RatingRow where
  user : Option Value
  item : Option Value
  rating : Option Value

namespace RatingRow

/-- A field that has to be there. -/
def field (name : String) (v : Option Value) : Except Failure Value :=
  match v with
  | some v => .ok v
  | none => .error (.missingField name)

/-- The identifiers of one side, each of which has to be a possible key. -/
def keys (name : String) (get : RatingRow → Option Value) :
    List RatingRow → Except Failure (List Value)
  | [] => .ok []
  | row :: rest => do
    let v ← field name (get row)
    let v ← v.asKey
    return v :: (← keys name get rest)

/-- A row with its identifiers replaced by row numbers. -/
def encode (users items : KeyIndex) (row : RatingRow) : Except Failure Rating := do
  let user ← users.indexOf (← field "user_id" row.user)
  let item ← items.indexOf (← field "item_id" row.item)
  let value ← (← field "rating" row.rating).toFloat
  return { user, item, value }

end RatingRow

namespace Split

/-- The share of `n` rows, rounded; a half goes to the even number. -/
def roundedShare (n : Nat) (share : Float) : Nat :=
  match Decimal.parts (Decimal.ofInteger n * share) with
  | .finite _ m q =>
    let (num, den) := Decimal.quotient m q
    Decimal.roundEven num den
  | _ => 0

/-- How many of `n` rows are held out: the rounded share, but one at least and all but one at
most. -/
def heldOutCount (n : Nat) (share : Float) : Nat :=
  min (max 1 (roundedShare n share)) (n - 1)

/-- The positions held out. -/
def heldOut (seed n : Nat) (share : Float) : List Nat :=
  (Random.order seed n).take (heldOutCount n share)

/-- A share has to lie strictly between zero and one. -/
def checkShare (share : Value) : Except Failure Float := do
  let x ← share.comparable
  if (Number.int 0).lt x && x.lt (.int 1) then x.toFloat? else .error .fractionOutOfRange

/-- The remainder of `n / d` modulo the prime `2^61 - 1`; `d` is a power of two. -/
def residue (n d : Nat) : Nat :=
  -- `2^60` undoes a doubling
  n * (2 ^ 60) ^ (d.log2 % 61) % (2 ^ 61 - 1)

/-- The number that seeds a shuffle: an integer without its sign, the residue of a decimal as an
unsigned word, or the number of a text's bytes and their digest. -/
def shuffleSeed (seed : Value) : Except Failure Nat :=
  match seed with
  | .int i => .ok i.natAbs
  | .bool b => .ok (if b then 1 else 0)
  | .float x =>
    match Decimal.parts x with
    | .nan => .ok 0
    | .infinite negative => .ok (if negative then 2 ^ 64 - 314159 else 314159)
    | .finite negative m q =>
      let (num, den) := Decimal.quotient m q
      let r := residue num den
      .ok (if negative && r != 0 then 2 ^ 64 - max r 2 else r)
  | .str s => .ok (Random.Digest.seed s.toUTF8.toList)
  | .illformed t => .error (.unencodable t.surrogates)
  | .bytes b => .ok (Random.Digest.seed b)
  | v => .error (.seedKind v.kind)

/-- The entries of a list at the positions of a class, in order. -/
def atPositions {α : Type} (p : Nat → Bool) (xs : List α) : List α :=
  (xs.zipIdx.filter fun x => p x.2).map Prod.fst

/-- Holds out a share of the rows. -/
def holdOut (rows : List RatingRow) (share seed : Value) : Except Failure Split := do
  let share ← checkShare share
  if rows.isEmpty then throw .noRatings
  let users ← KeyIndex.fromKeys (← RatingRow.keys "user_id" RatingRow.user rows)
  let items ← KeyIndex.fromKeys (← RatingRow.keys "item_id" RatingRow.item rows)
  let ratings ← rows.mapM (RatingRow.encode users items)
  let seed ← shuffleSeed seed
  let out := heldOut seed ratings.length share
  return { train := atPositions (fun i => !out.contains i) ratings,
           validation := atPositions (fun i => out.contains i) ratings, users, items }

end Split

end PoissonFactor
