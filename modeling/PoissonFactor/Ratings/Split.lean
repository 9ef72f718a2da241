import PoissonFactor.Ratings.KeyIndex
import PoissonFactor.Value.Numeral

/-!
# Ratings for training and validation

A rating names a user and an item by row number. A split holds two lists of ratings
with the indexes that number users and items. Row numbers may be anything until
`check` has passed; it names the first rating that lies outside the indexes.
-/

namespace PoissonFactor

/-- A rating: two row numbers and a value. -/
structure Rating where
  user : Int
  item : Int
  value : Float

/-- How a rating is shown in messages. -/
def Rating.shown (r : Rating) : String :=
  "RatingEntry(user=" ++ toString r.user ++ ", item=" ++ toString r.item ++ ", value="
    ++ Decimal.plain r.value ++ ")"

/-- A rating whose rows lie inside tables of the given sizes. -/
structure Observation (α : Type) (users items : Nat) where
  user : Fin users
  item : Fin items
  value : α

/-- Ratings to train on, ratings held out, and the indexes of users and items. -/
structure Split where
  train : List Rating
  validation : List Rating
  users : KeyIndex
  items : KeyIndex

namespace Split

/-- The ratings of one part inside tables of the given sizes, or the first that lies outside. -/
def locate (part : Part) (users items : Nat) :
    List Rating → Except Failure (List (Observation Float users items))
  | [] => .ok []
  | r :: rest =>
    if hu : 0 ≤ r.user ∧ r.user < users then
      if hi : 0 ≤ r.item ∧ r.item < items then do
        let o : Observation Float users items :=
          ⟨⟨r.user.toNat, by omega⟩, ⟨r.item.toNat, by omega⟩, r.value⟩
        return o :: (← locate part users items rest)
      else .error (.entryOutOfRange part .item r.shown)
    else .error (.entryOutOfRange part .user r.shown)

/-- Do all ratings lie inside the indexes? -/
def check (s : Split) : Except Failure Unit := do
  let _ ← locate .train s.users.size s.items.size s.train
  let _ ← locate .validation s.users.size s.items.size s.validation

/-- The members of a value that is taken apart. -/
def parts (v : Value) : Except Failure (List Value) :=
  match v with
  | .list vs | .tuple vs | .set vs => .ok vs
  | .dict es => .ok (es.map Prod.fst)
  | .str s => .ok (s.toList.map fun c => .str (String.ofList [c]))
  | .illformed t => .ok (t.points.map fun p => .ofPoints [p])
  | .bytes b => .ok (b.map fun x => .int x.toNat)
  | _ => .error (.notIterable v.kind)

/-- A rating from a value with three members. -/
def rating (v : Value) : Except Failure Rating := do
  match ← parts v with
  | [u, i, x] =>
    let user ← u.toInt
    let item ← i.toInt
    let value ← x.toFloat
    return { user, item, value }
  | _ :: _ :: _ :: _ :: _ => .error (.tooManyParts 3)
  | vs => .error (.tooFewParts 3 vs.length)

/-- One more than the largest row number, or zero. -/
def leastSize (row : Rating → Int) : List Rating → Int
  | [] => 0
  | r :: rest => rest.foldl (fun m r => max m (row r + 1)) (row r + 1)

/-- A number of rows: the one given, which has to be an integer or a flag, or the least that
holds all ratings. -/
def size (given : Option Value) (least : Int) : Except Failure Int :=
  match given with
  | none | some .null => .ok least
  | some (.int n) => .ok n
  | some (.bool b) => .ok (if b then 1 else 0)
  | some v => .error (.notACount v.kind)

/-- A split of ratings that are numbered already. The indexes number the rows themselves. -/
def ofTriples (train validation : List Value) (userCount itemCount : Option Value) :
    Except Failure Split := do
  let train ← train.mapM rating
  let validation ← validation.mapM rating
  let all := train ++ validation
  let users ← size userCount (leastSize Rating.user all)
  let items ← size itemCount (leastSize Rating.item all)
  return { train, validation, users := .dense users.toNat, items := .dense items.toNat }

end Split

end PoissonFactor
