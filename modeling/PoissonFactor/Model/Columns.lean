import PoissonFactor.Model.Softmax
import PoissonFactor.Model.Start

/-!
# The update phases, column by column

The same iteration as in `Rows`, arranged for whole tables. The ratings are kept in
three columns; those that count form one batch, the log-weights of the batch form one
table, and sums run over a column of it at a time. Rows of the batch that belong to the
same user or item are collected before they are added.
-/

namespace PoissonFactor.Columns

variable {α : Type} [Scalar α] {users items k : Nat}

/-- A column of a table. -/
def column {m n : Nat} (t : Table α m n) (j : Fin n) : Vector α m :=
  Vector.ofFn fun i => t[i][j]

/-- Applies an operation entry by entry. -/
def zip {m n : Nat} (f : α → α → α) (a b : Table α m n) : Table α m n :=
  Vector.zipWith (Vector.zipWith f) a b

/-- The quotients of two tables, entry by entry. -/
def ratio {m n : Nat} (a b : Table α m n) : Table α m n :=
  zip (· / ·) a b

/-- The sum of every column: the rows added up. -/
def columnSums {m n : Nat} (t : Table α m n) : Vector α n :=
  t.toList.foldl (Vector.zipWith (· + ·)) (Vector.ofFn fun _ => Scalar.zero)

/-- The sum of every row. -/
def rowSums {m n : Nat} (t : Table α m n) : Vector α m :=
  t.map fun row => Scalar.sum row.toList

/-- The logarithm of the sum of exponentials of every row, one column after the other. -/
def logSums {m n : Nat} (t : Table α m n) : Vector α m :=
  match List.finRange n with
  | [] => Vector.ofFn fun _ => Scalar.zero
  | j :: rest => rest.foldl (fun acc j => Vector.zipWith logAdd acc (column t j)) (column t j)

/-- The probabilities of every row of log-weights. -/
def softmaxRows {m n : Nat} (t : Table α m n) : Table α m n :=
  if n = 1 then Table.constant Scalar.one
  else
    Vector.zipWith (fun row total => row.map fun x => Scalar.exp (x - total)) t (logSums t)

/-- The rows of a table at a list of positions. -/
def gather {m n b : Nat} (t : Table α m n) (index : Vector (Fin m) b) : Table α b n :=
  index.map fun i => t[i]

/-- Adds every row of a batch to the row of a table that its index names. -/
def indexAdd {m n b : Nat} (t : Table α m n) (index : Vector (Fin m) b) (rows : Table α b n) :
    Table α m n :=
  Vector.ofFn fun i =>
    let picked := (List.finRange b).filter fun x => index[x] == i
    picked.foldl (fun row x => Vector.zipWith (· + ·) row rows[x]) t[i]

/-- Ratings in three columns. -/
structure Batch (α : Type) (users items : Nat) where
  size : Nat
  user : Vector (Fin users) size
  item : Vector (Fin items) size
  value : Vector α size

namespace Batch

variable {α : Type} {users items : Nat}

/-- The rating at a position. -/
def get (b : Batch α users items) (x : Fin b.size) : Observation α users items where
  user := b.user[x]
  item := b.item[x]
  value := b.value[x]

/-- The ratings, one after the other. -/
def toList (b : Batch α users items) : List (Observation α users items) :=
  (List.finRange b.size).map b.get

/-- The columns of some ratings. -/
def ofList (ratings : List (Observation α users items)) : Batch α users items where
  size := ratings.length
  user := ⟨(ratings.map Observation.user).toArray, by simp⟩
  item := ⟨(ratings.map Observation.item).toArray, by simp⟩
  value := ⟨(ratings.map Observation.value).toArray, by simp⟩

/-- The entries at some positions, picked out of every column. -/
def pick (b : Batch α users items) (positions : List (Fin b.size)) : Batch α users items where
  size := positions.length
  user := ⟨(positions.map fun x => b.user[x]).toArray, by simp⟩
  item := ⟨(positions.map fun x => b.item[x]).toArray, by simp⟩
  value := ⟨(positions.map fun x => b.value[x]).toArray, by simp⟩

/-- The ratings whose values pass a test. -/
def filter (p : α → Bool) (b : Batch α users items) : Batch α users items :=
  b.pick ((List.finRange b.size).filter fun x => p b.value[x])

theorem toList_ofList (ratings : List (Observation α users items)) :
    (ofList ratings).toList = ratings := by
  apply List.ext_getElem
  · simp [toList, ofList]
  · intro x _ _
    simp [toList, ofList, get]

end Batch

/-- The columns of given ratings. -/
structure Layout {α : Type} {users items : Nat} (ratings : List (Observation α users items)) where
  batch : Batch α users items
  holds : batch.toList = ratings

/-- Lays ratings out in columns. -/
def Layout.of {α : Type} {users items : Nat} (ratings : List (Observation α users items)) :
    Layout ratings where
  batch := .ofList ratings
  holds := Batch.toList_ofList ratings

/-- Digamma of every entry. -/
def digammas {m n : Nat} (t : Table α m n) : Table α m n :=
  t.map (Vector.map Scalar.digamma)

/-- The logarithm of every entry. -/
def logs {m n : Nat} (t : Table α m n) : Table α m n :=
  t.map (Vector.map Scalar.log)

/-- The log-weights of a batch: one row for every rating. -/
def logWeights (b : Batch α users items) (s : State α users items k) : Table α b.size k :=
  zip (· - ·)
    (zip (· + ·)
      (zip (· - ·) (digammas (gather s.users.shape b.user)) (logs (gather s.users.rate b.user)))
      (digammas (gather s.items.shape b.item)))
    (logs (gather s.items.rate b.item))

/-- How the ratings of a batch are shared out among the features. -/
def shares (b : Batch α users items) (s : State α users items k) : Table α b.size k :=
  let scale := b.value.map fun v => if Scalar.below Scalar.one v then v else Scalar.one
  Vector.zipWith (fun row w => row.map fun x => x * w) (softmaxRows (logWeights b s)) scale

/-- Counts the training ratings. -/
def count (train : Batch α users items) (s : State α users items k) : State α users items k :=
  let batch := train.filter fun v => Scalar.below Scalar.zero v
  if batch.size = 0 then s
  else
    let shares := shares batch s
    { users := { s.users with counted := indexAdd s.users.counted batch.user shares }
      items := { s.items with counted := indexAdd s.items.counted batch.item shares } }

/-- Renews one side from the other. -/
def renew {n m : Nat} (prior : SidePrior α) (own : Factor α n k) (other : Factor α m k) :
    Factor α n k :=
  let sums := columnSums (ratio other.shape other.rate)
  let activity := Vector.zipWith (· / ·) own.activityShape own.activityRate
  let rate : Table α n k := activity.map fun x => sums.map fun s => s + x
  { shape := own.counted
    rate
    activityShape := own.activityShape
    activityRate := (rowSums (ratio own.counted rate)).map fun x =>
      prior.activityShape / prior.activityRate + x
    counted := Table.constant prior.shape }

/-- Renews the users. -/
def renewUsers (p : Problem α users items) (s : State α users items k) : State α users items k :=
  { s with users := renew p.userPrior s.users s.items }

/-- Renews the items. -/
def renewItems (p : Problem α users items) (s : State α users items k) : State α users items k :=
  { s with items := renew p.itemPrior s.items s.users }

/-- Fills the activity shapes of one side with their final value. -/
def fillActivity {n : Nat} (prior : SidePrior α) (f : Factor α n k) : Factor α n k :=
  { f with
    activityShape := f.activityShape.map fun _ =>
      prior.activityShape + Scalar.ofNat k * prior.shape }

/-- Sets the activity shapes of both sides to their final values. -/
def fixActivity (p : Problem α users items) (s : State α users items k) :
    State α users items k :=
  { users := fillActivity p.userPrior s.users, items := fillActivity p.itemPrior s.items }

/-- Names the first parameter with an entry that is not finite or not above zero. -/
def check (phase : String) (s : State α users items k) : Except Failure Unit :=
  Parameter.all.forM fun p =>
    let values := s.parameter p
    if !values.all Scalar.isFinite || values.any fun x => Scalar.atMost x Scalar.zero then
      .error (.leftPositive p phase)
    else .ok ()

/-- The rates of a batch. -/
def rates (b : Batch α users items) (s : State α users items k) : Vector α b.size :=
  rowSums (zip (· * ·)
    (ratio (gather s.users.shape b.user) (gather s.users.rate b.user))
    (ratio (gather s.items.shape b.item) (gather s.items.rate b.item)))

/-- The mean log-likelihood of the held-out ratings. -/
def averageLogLikelihood (hits : Bool) (validation : Batch α users items)
    (s : State α users items k) : α :=
  let terms :=
    if hits then
      Vector.zipWith (fun v r =>
        if Scalar.equal v Scalar.zero then -r else Scalar.log (-(Scalar.expm1 (-r))))
        validation.value (rates validation s)
    else
      Vector.zipWith (fun v r =>
        v * Scalar.log r - r - Scalar.logGamma (v + Scalar.one))
        validation.value (rates validation s)
  Scalar.sum terms.toList / Scalar.ofNat validation.size

/-- The means of all rows and features of one side. -/
def means {n : Nat} (f : Factor α n k) : Table α n k :=
  ratio f.shape f.rate

end PoissonFactor.Columns
