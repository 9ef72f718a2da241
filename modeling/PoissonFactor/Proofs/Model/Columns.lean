import PoissonFactor.Model.Engine
import PoissonFactor.Proofs.Model.Entries

/-!
# Column by column is rating by rating

The two arrangements of an iteration were written apart: one goes from rating to
rating, the other fills whole tables and collects the rows of a batch before it adds
them. Every entry is nevertheless made by the same operations in the same order, so
the two are equal in whatever arithmetic, with no law of numbers used. Each phase is
compared where it writes:

> `logSums_getElem`: a logarithm of sums, taken up column by column over all rows at
> once, is for each row the one taken up along that row.

> `indexAdd_eq`: rows collected per index and added together are the rows added one
> after the other.

Main results:

> `Columns.engine_eq_rows`: on whatever columns hold the two parts of the ratings, the
> engine that reads the columns is the engine that goes through the ratings.

> `Backend.engine_columns_eq_rows`: the engines of the two backends are the same.
-/

namespace PoissonFactor

/-! ## Rows and sides by their entries -/

section

variable {β γ δ : Type} {m n k : Nat}

/-- A row is changed entry by entry. -/
theorem Row.getElem_map (f : β → γ) (v : Vector β n) (i : Fin n) : (v.map f)[i] = f v[i] := by
  simp

theorem Row.getElem_zipWith (f : β → γ → δ) (v : Vector β n) (w : Vector γ n) (i : Fin n) :
    (Vector.zipWith f v w)[i] = f v[i] w[i] := by
  simp

/-- Two sides with the same five arrays are the same. -/
theorem Factor.eq_of_arrays {f g : Factor β n k} (hshape : f.shape = g.shape)
    (hrate : f.rate = g.rate) (hactivityShape : f.activityShape = g.activityShape)
    (hactivityRate : f.activityRate = g.activityRate) (hcounted : f.counted = g.counted) :
    f = g := by
  cases f
  cases g
  simp_all

namespace Columns

/-! ## Whole tables -/

/-- Tables are put together entry by entry. -/
theorem zip_getElem (f : β → β → β) (s t : Table β m n) (i : Fin m) (j : Fin n) :
    (zip f s t)[i][j] = f s[i][j] t[i][j] := by
  unfold zip
  rw [Row.getElem_zipWith, Row.getElem_zipWith]

/-- A column of a table has one entry for each row. -/
theorem column_getElem (t : Table β m n) (i : Fin m) (j : Fin n) : (column t j)[i] = t[i][j] :=
  Row.getElem_ofFn _ i

/-- Gathering takes the row that the index names. -/
theorem gather_getElem {b : Nat} (t : Table β m n) (index : Vector (Fin m) b) (x : Fin b) :
    (gather t index)[x] = t[index[x]] :=
  Row.getElem_map _ index x

/-! ## Batches -/

namespace Batch

variable {users items : Nat} (b : Batch β users items)

/-- The user of a rating stands in the first column. -/
theorem user_getElem (x : Fin b.size) : b.user[x] = (b.get x).user := rfl

/-- A batch has the items in the order of the observations. -/
theorem item_getElem (x : Fin b.size) : b.item[x] = (b.get x).item := rfl

theorem value_getElem (x : Fin b.size) : b.value[x] = (b.get x).value := rfl

theorem length_toList : b.toList.length = b.size := by
  simp [toList]

/-- The ratings at some positions are those picked out. -/
theorem toList_pick (positions : List (Fin b.size)) :
    (b.pick positions).toList = positions.map b.get := by
  apply List.ext_getElem
  · simp [toList, pick]
  · intro x _ _
    simp [toList, pick, get]

/-- The ratings kept are those of the list whose values pass the test. -/
theorem toList_filter (p : β → Bool) :
    (b.filter p).toList = b.toList.filter fun o => p o.value := by
  unfold filter
  rw [toList_pick]
  unfold toList
  rw [List.filter_map]
  rfl

end Batch

end Columns

end

namespace Columns

variable {α : Type} [Scalar α] {users items k m n b : Nat}

/-! ## Sums and softmax -/

/-- Rows added up, seen at one column. -/
theorem foldl_add_getElem (rows : List (Vector α n)) (acc : Vector α n) (j : Fin n) :
    (rows.foldl (Vector.zipWith (· + ·)) acc)[j] = rows.foldl (fun s row => s + row[j]) acc[j] := by
  induction rows generalizing acc with
  | nil => rfl
  | cons row rows ih => rw [List.foldl_cons, ih, Row.getElem_zipWith, List.foldl_cons]

/-- A column is summed from the first row to the last. -/
theorem columnSums_getElem (t : Table α m n) (j : Fin n) :
    (columnSums t)[j] = Scalar.total fun i : Fin m => t[i][j] := by
  unfold columnSums Scalar.total
  rw [foldl_add_getElem, Row.getElem_ofFn, row_toList, List.foldl_map,
    Fin.foldl_eq_finRange_foldl]

/-- A row is summed from the first column to the last. -/
theorem rowSums_getElem (t : Table α m n) (i : Fin m) :
    (rowSums t)[i] = Scalar.total fun j : Fin n => t[i][j] := by
  unfold rowSums Scalar.sum Scalar.total
  rw [Row.getElem_map, row_toList, List.foldl_map, Fin.foldl_eq_finRange_foldl]

/-- Columns taken into a running logarithm, seen at one row. -/
theorem foldl_logAdd_getElem (t : Table α m n) (columns : List (Fin n)) (acc : Vector α m)
    (i : Fin m) :
    (columns.foldl (fun acc j => Vector.zipWith logAdd acc (column t j)) acc)[i]
      = (columns.map fun j => t[i][j]).foldl logAdd acc[i] := by
  induction columns generalizing acc with
  | nil => rfl
  | cons j columns ih =>
    rw [List.foldl_cons, ih, Row.getElem_zipWith, column_getElem, List.map_cons, List.foldl_cons]

/-- All rows at once, the running logarithm of a row is its own. -/
theorem logSums_getElem (t : Table α m n) (i : Fin m) : (logSums t)[i] = logSum t[i].toList := by
  unfold logSums
  rw [row_toList]
  cases List.finRange n with
  | nil => exact Row.getElem_ofFn _ i
  | cons j columns =>
    dsimp only
    rw [foldl_logAdd_getElem, column_getElem]
    rfl

theorem softmaxRows_getElem (t : Table α m n) (i : Fin m) :
    (softmaxRows t)[i] = softmaxRow t[i] := by
  unfold softmaxRows softmaxRow
  by_cases hn : n = 1
  · rw [if_pos hn, if_pos hn]
    exact Row.getElem_ofFn _ i
  · rw [if_neg hn, if_neg hn, Row.getElem_zipWith, logSums_getElem]

/-! ## Counting -/

/-- Adding a row of shares changes one row. -/
theorem addRow_row (t : Table α m n) (i : Fin m) (row : Vector α n) (x : Fin m) :
    (Rows.addRow t i row)[x] = if i = x then Vector.zipWith (· + ·) t[x] row else t[x] := by
  unfold Rows.addRow
  by_cases h : i = x
  · subst h
    simp
  · have hne : i.val ≠ x.val := fun hv => h (Fin.ext hv)
    simp [h, Vector.getElem_set_ne, hne]

/-- Adding rows one after the other, seen at one row: only those meant for it are added. -/
theorem foldl_addRow_row (index : Vector (Fin m) b) (rows : Table α b n) (xs : List (Fin b))
    (t : Table α m n) (i : Fin m) :
    (xs.foldl (fun t x => Rows.addRow t index[x] rows[x]) t)[i]
      = (xs.filter fun x => index[x] == i).foldl
          (fun row x => Vector.zipWith (· + ·) row rows[x]) t[i] := by
  induction xs generalizing t with
  | nil => rfl
  | cons x xs ih =>
    rw [List.foldl_cons, ih, addRow_row, List.filter_cons]
    by_cases hx : index[x] = i
    · rw [if_pos hx, if_pos (beq_iff_eq.mpr hx), List.foldl_cons]
    · rw [if_neg hx, if_neg (mt beq_iff_eq.mp hx)]

/-- Collecting rows before they are added is adding them one after the other. -/
theorem indexAdd_eq (t : Table α m n) (index : Vector (Fin m) b) (rows : Table α b n) :
    indexAdd t index rows
      = (List.finRange b).foldl (fun t x => Rows.addRow t index[x] rows[x]) t := by
  apply Row.ext
  intro i
  rw [foldl_addRow_row]
  exact Row.getElem_ofFn _ i

/-- The shares of a rating depend on that rating only. -/
theorem shares_getElem (batch : Batch α users items) (s : State α users items k)
    (x : Fin batch.size) : (shares batch s)[x] = Rows.shares s (batch.get x) := by
  unfold shares Rows.shares
  rw [Row.getElem_zipWith, softmaxRows_getElem, Row.getElem_map, Batch.value_getElem]
  congr 2
  apply Row.ext
  intro j
  unfold logWeights Rows.logWeights digammas logs
  simp only [zip_getElem, Row.getElem_map, gather_getElem, Batch.user_getElem, Batch.item_getElem,
    Row.getElem_ofFn]

/-- Adding the shares of a batch to the rows it names is adding them rating by rating. -/
theorem indexAdd_shares (batch : Batch α users items) (s : State α users items k)
    (rowOf : Observation α users items → Fin n) (index : Vector (Fin n) batch.size)
    (hindex : ∀ x : Fin batch.size, index[x] = rowOf (batch.get x)) (t : Table α n k) :
    indexAdd t index (shares batch s)
      = (batch.toList.map fun o => (o, Rows.shares s o)).foldl
          (fun t r => Rows.addRow t (rowOf r.1) r.2) t := by
  rw [indexAdd_eq, List.foldl_map]
  unfold Batch.toList
  rw [List.foldl_map]
  simp only [hindex, shares_getElem]

/-- Counting column by column is counting rating by rating. -/
theorem count_eq (p : Problem α users items) (train : Layout p.train)
    (s : State α users items k) : count train.batch s = Rows.count p s := by
  let batch := train.batch.filter fun v => Scalar.below Scalar.zero v
  have hbatch : batch.toList = p.train.filter Rows.counts := by
    rw [Batch.toList_filter, train.holds]
    rfl
  show (if batch.size = 0 then s
    else
      { users := { s.users with
          counted := indexAdd s.users.counted batch.user (shares batch s) }
        items := { s.items with
          counted := indexAdd s.items.counted batch.item (shares batch s) } }) = Rows.count p s
  by_cases hnone : batch.size = 0
  · -- Without a rating that counts nothing is shared out, and nothing is added.
    have hnil : p.train.filter Rows.counts = [] := by
      apply List.eq_nil_of_length_eq_zero
      rw [← hbatch, Batch.length_toList, hnone]
    unfold Rows.count
    rw [if_pos hnone, hnil]
    rfl
  · rw [if_neg hnone, indexAdd_shares _ _ Observation.user _ batch.user_getElem,
      indexAdd_shares _ _ Observation.item _ batch.item_getElem, hbatch]
    rfl

/-! ## Renewing -/

/-- Renewing whole tables is renewing every row. -/
theorem renew_eq (prior : SidePrior α) (own : Factor α n k) (other : Factor α m k) :
    renew prior own other = Rows.renew prior own other := by
  have hrate : (renew prior own other).rate = (Rows.renew prior own other).rate := by
    apply Table.ext
    intro i j
    unfold renew Rows.renew ratio Factor.mean
    simp only [Row.getElem_map, Row.getElem_zipWith, columnSums_getElem, zip_getElem,
      Table.getElem_ofFn, Row.getElem_ofFn]
  have hactivity : (renew prior own other).activityRate
      = (Rows.renew prior own other).activityRate := by
    apply Row.ext
    intro i
    have hcolumns : (renew prior own other).activityRate[i]
        = prior.activityShape / prior.activityRate
          + (rowSums (ratio own.counted (renew prior own other).rate))[i] :=
      Row.getElem_map _ _ i
    have hrows : (Rows.renew prior own other).activityRate[i]
        = prior.activityShape / prior.activityRate
          + Scalar.total fun j : Fin k =>
              own.counted[i][j] / (Rows.renew prior own other).rate[i][j] :=
      Row.getElem_ofFn _ i
    rw [hcolumns, hrows, rowSums_getElem, hrate]
    unfold ratio
    simp only [zip_getElem]
  exact Factor.eq_of_arrays rfl hrate rfl hactivity rfl

theorem means_eq (f : Factor α n k) : means f = f.means := by
  apply Table.ext
  intro i j
  unfold means ratio Factor.means Factor.mean
  rw [zip_getElem, Table.getElem_ofFn]

theorem fillActivity_eq (prior : SidePrior α) (f : Factor α n k) :
    fillActivity prior f
      = { f with activityShape := Vector.ofFn fun _ => Rows.fixedShape prior k } := by
  unfold fillActivity
  congr 1
  apply Row.ext
  intro i
  rw [Row.getElem_map, Row.getElem_ofFn]
  rfl

/-! ## Checking and evaluating -/

/-- What is looked for among the entries of a parameter is what keeps it from being kept. -/
theorem leaves_eq (s : State α users items k) (x : Parameter) :
    (!(s.parameter x).all Scalar.isFinite
        || (s.parameter x).any fun y => Scalar.atMost y Scalar.zero)
      = !s.keeps x := by
  unfold State.keeps Scalar.isPositive
  induction s.parameter x with
  | nil => rfl
  | cons y ys ih =>
    rw [List.all_cons, List.any_cons, List.all_cons, Bool.not_and, Bool.not_and, ← ih]
    cases Scalar.isFinite y <;> cases Scalar.atMost y (Scalar.zero : α) <;> simp

/-- Going through parameters stops at the first that is not kept. -/
theorem forM_eq_find (phase : String) (s : State α users items k) (xs : List Parameter) :
    (xs.forM fun x =>
        if !s.keeps x then Except.error (Failure.leftPositive x phase) else Except.ok ())
      = match xs.find? fun x => !s.keeps x with
        | some x => .error (.leftPositive x phase)
        | none => .ok () := by
  induction xs with
  | nil => rfl
  | cons x xs ih =>
    rw [List.forM, List.find?_cons]
    cases hx : !s.keeps x with
    | true => rfl
    | false => exact ih

/-- The check looks at the arrays in the same order. -/
theorem check_eq (phase : String) (s : State α users items k) : check phase s = s.check phase := by
  unfold check State.check
  simp only [leaves_eq]
  exact forM_eq_find phase s Parameter.all

/-- The rate of a rating is that of its user and item. -/
theorem rates_getElem (batch : Batch α users items) (s : State α users items k)
    (x : Fin batch.size) :
    (rates batch s)[x] = Rows.pairRate s (batch.get x).user (batch.get x).item := by
  unfold rates Rows.pairRate ratio Factor.mean
  rw [rowSums_getElem]
  simp only [zip_getElem, gather_getElem, Batch.user_getElem, Batch.item_getElem]

/-- Rates stand beside the ratings they belong to. -/
theorem toList_zipWith_rates (batch : Batch α users items) (s : State α users items k)
    (f : α → α → α) :
    (Vector.zipWith f batch.value (rates batch s)).toList
      = batch.toList.map fun o => f o.value (Rows.pairRate s o.user o.item) := by
  unfold Batch.toList
  rw [row_toList, List.map_map]
  simp only [Row.getElem_zipWith, Batch.value_getElem, rates_getElem]
  rfl

/-- The average is taken over the same list. -/
theorem averageLogLikelihood_eq (p : Problem α users items) (validation : Layout p.validation)
    (s : State α users items k) :
    averageLogLikelihood p.hits validation.batch s = Rows.averageLogLikelihood p s := by
  let batch := validation.batch
  have hsize : batch.size = p.validation.length := by
    rw [← validation.holds, Batch.length_toList]
  have hterms : (if p.hits then
        Vector.zipWith (fun v r =>
          if Scalar.equal v Scalar.zero then -r else Scalar.log (-(Scalar.expm1 (-r))))
          batch.value (rates batch s)
      else
        Vector.zipWith (fun v r => v * Scalar.log r - r - Scalar.logGamma (v + Scalar.one))
          batch.value (rates batch s)).toList
      = p.validation.map fun o =>
          Rows.logLikelihood p.hits o.value (Rows.pairRate s o.user o.item) := by
    unfold Rows.logLikelihood
    rw [← validation.holds]
    cases p.hits with
    | true => exact toList_zipWith_rates batch s _
    | false => exact toList_zipWith_rates batch s _
  unfold Rows.averageLogLikelihood
  rw [← hterms, ← hsize]
  rfl

/-! ## The two arrangements -/

/-- **Column by column is rating by rating.** On whatever columns hold the two parts of the ratings,
both arrangements of an iteration are the same functions of a state, in whatever arithmetic. -/
theorem engine_eq_rows (p : Problem α users items) (train : Layout p.train)
    (validation : Layout p.validation) :
    (engine p train validation : Engine α users items k) = Rows.engine p := by
  have hcount : (count train.batch : State α users items k → _) = Rows.count p :=
    funext (count_eq p train)
  have husers : (renewUsers p : State α users items k → _) = Rows.renewUsers p := by
    funext s
    unfold renewUsers Rows.renewUsers
    rw [renew_eq]
  have hitems : (renewItems p : State α users items k → _) = Rows.renewItems p := by
    funext s
    unfold renewItems Rows.renewItems
    rw [renew_eq]
  have hfix : (fixActivity p : State α users items k → _) = Rows.fixActivity p := by
    funext s
    unfold fixActivity Rows.fixActivity
    rw [fillActivity_eq, fillActivity_eq]
  have hcheck : (check : String → State α users items k → _) = State.check :=
    funext fun phase => funext (check_eq phase)
  have hvalue : (averageLogLikelihood p.hits validation.batch : State α users items k → α)
      = Rows.averageLogLikelihood p := funext (averageLogLikelihood_eq p validation)
  simp only [engine, Rows.engine, hcount, husers, hitems, hfix, hcheck, hvalue, means_eq]

end Columns

/-- The engines of the two backends are the same. -/
theorem Backend.engine_columns_eq_rows {α : Type} [Scalar α] {users items k : Nat}
    (p : Problem α users items) :
    (Backend.columns.engine p : Engine α users items k) = Backend.rows.engine p :=
  Columns.engine_eq_rows p (.of p.train) (.of p.validation)

end PoissonFactor
