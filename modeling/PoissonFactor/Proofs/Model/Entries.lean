import PoissonFactor.Model.Rows
import PoissonFactor.Proofs.Model.Softmax

/-!
# The phases, entry by entry

Every phase is a formula for the entries of the tables it writes; this file states
each of them once, over the reals, with sums as sums.

Counting gathers, for a row of either side, the ratings of that row that lie above
zero: such a rating enters with `max v 1`, shared out by the softmax of its
log-weights (`gathered`). Renewing a side reads the other side's means and its own
activity (`Rows.renew_rate`, `Rows.renew_activityRate`); the shapes are the ones
counted, and counting begins anew at the prior.
-/

namespace PoissonFactor

/-! ## Tables by their entries -/

section

variable {β : Type} {m n : Nat}

/-- The entries of a table that is made from a function are its values. -/
theorem Table.getElem_ofFn (f : Fin m → Fin n → β) (i : Fin m) (j : Fin n) :
    (Table.ofFn f)[i][j] = f i j := by
  simp [Table.ofFn]

theorem Table.getElem_constant (b : β) (i : Fin m) (j : Fin n) :
    (Table.constant b : Table β m n)[i][j] = b :=
  Table.getElem_ofFn _ i j

/-- Rows with the same entries are the same. -/
theorem Row.ext {v w : Vector β n} (h : ∀ i : Fin n, v[i] = w[i]) : v = w := by
  apply Vector.ext
  intro i hi
  exact h ⟨i, hi⟩

/-- So are tables. -/
theorem Table.ext {t t' : Table β m n} (h : ∀ (i : Fin m) (j : Fin n), t[i][j] = t'[i][j]) :
    t = t' :=
  Row.ext fun i => Row.ext (h i)

theorem Row.getElem_ofFn (f : Fin n → β) (i : Fin n) : (Vector.ofFn f)[i] = f i := by
  simp

end

variable [SpecialFunctions] {users items k n m : Nat}

/-! ## What a rating is worth -/

/-- The expected logarithm of a parameter. -/
noncomputable def expectedLog (f : Factor ℝ n k) (i : Fin n) (j : Fin k) : ℝ :=
  Scalar.digamma f.shape[i][j] - Real.log f.rate[i][j]

/-- The log-weight of a feature for a user and an item. -/
noncomputable def logWeight (s : State ℝ users items k) (u : Fin users) (i : Fin items)
    (j : Fin k) : ℝ :=
  expectedLog s.users u j + expectedLog s.items i j

/-- The share of a feature in the ratings of a user for an item. -/
noncomputable def responsibility (s : State ℝ users items k) (u : Fin users) (i : Fin items)
    (j : Fin k) : ℝ :=
  Real.exp (logWeight s u i j) / ∑ j' : Fin k, Real.exp (logWeight s u i j')

/-- The ratings above zero that belong to a row. -/
noncomputable def ratingsOf (rowOf : Observation ℝ users items → Fin n) (i : Fin n)
    (ratings : List (Observation ℝ users items)) : List (Observation ℝ users items) :=
  ratings.filter fun o => 0 < o.value ∧ rowOf o = i

/-- What one count adds to an entry of a row. -/
noncomputable def gathered (p : Problem ℝ users items) (s : State ℝ users items k)
    (rowOf : Observation ℝ users items → Fin n) (i : Fin n) (j : Fin k) : ℝ :=
  ((ratingsOf rowOf i p.train).map fun o =>
    max o.value 1 * responsibility s o.user o.item j).sum

/-- Every feature gets a share of every rating. -/
theorem responsibility_pos (s : State ℝ users items k) (u : Fin users) (i : Fin items)
    (j : Fin k) : 0 < responsibility s u i j :=
  div_pos (Real.exp_pos _) (Finset.sum_pos (fun _ _ => Real.exp_pos _) ⟨j, Finset.mem_univ j⟩)

/-- The shares are the softmax of the log-weights. -/
theorem softmaxRow_logWeights (s : State ℝ users items k) (u : Fin users) (i : Fin items)
    (j : Fin k) : (softmaxRow (Rows.logWeights s u i))[j] = responsibility s u i j := by
  have hlog : ∀ j : Fin k, (Rows.logWeights s u i)[j] = logWeight s u i j := by
    intro j
    unfold Rows.logWeights logWeight expectedLog
    rw [Row.getElem_ofFn, Scalar.real_log, Scalar.real_log]
    ring
  rw [softmaxRow_getElem]
  unfold responsibility
  simp only [hlog]

/-- The shares of all features make up the whole. -/
theorem sum_responsibility (hk : 1 ≤ k) (s : State ℝ users items k) (u : Fin users)
    (i : Fin items) : ∑ j : Fin k, responsibility s u i j = 1 := by
  rw [← sum_softmaxRow hk (Rows.logWeights s u i)]
  exact Finset.sum_congr rfl fun j _ => (softmaxRow_logWeights s u i j).symm

/-- No row gathers less than nothing. -/
theorem gathered_nonneg (p : Problem ℝ users items) (s : State ℝ users items k)
    (rowOf : Observation ℝ users items → Fin n) (i : Fin n) (j : Fin k) :
    0 ≤ gathered p s rowOf i j := by
  apply List.sum_nonneg
  intro x hx
  obtain ⟨o, -, rfl⟩ := List.mem_map.mp hx
  have hmax : (0 : ℝ) ≤ max o.value 1 := le_trans zero_le_one (le_max_right _ _)
  exact mul_nonneg hmax (responsibility_pos s o.user o.item j).le

namespace Rows

/-! ## Counting -/

/-- A rating counts if it is above zero. -/
theorem counts_iff (o : Observation ℝ users items) : counts o = true ↔ 0 < o.value := by
  unfold counts
  simp

/-- A rating weighs at least one. -/
theorem weight_eq (v : ℝ) : weight v = max v 1 := by
  unfold weight
  rw [Scalar.real_below, Scalar.real_one]
  by_cases h : (1 : ℝ) < v
  · rw [if_pos (decide_eq_true h), max_eq_left h.le]
  · rw [if_neg (by simpa using h), max_eq_right (not_lt.mp h)]

/-- A rating is shared out by the softmax of its log-weights. -/
theorem shares_getElem (s : State ℝ users items k) (o : Observation ℝ users items) (j : Fin k) :
    (shares s o)[j] = max o.value 1 * responsibility s o.user o.item j := by
  have hmap : (shares s o)[j] = (softmaxRow (logWeights s o.user o.item))[j] * weight o.value := by
    unfold shares
    simp
  rw [hmap, softmaxRow_logWeights, weight_eq, mul_comm]

/-- Adding a row of shares changes one row, entry by entry. -/
theorem addRow_getElem (t : Table ℝ n k) (i : Fin n) (row : Vector ℝ k) (x : Fin n) (j : Fin k) :
    (addRow t i row)[x][j] = t[x][j] + if i = x then row[j] else 0 := by
  unfold addRow
  by_cases h : i = x
  · subst h
    simp
  · have hne : i.val ≠ x.val := fun hv => h (Fin.ext hv)
    simp [h, Vector.getElem_set_ne, hne]

/-- Adding rows one after the other adds up, for every row, what was meant for it. -/
theorem foldl_addRow_getElem (rowOf : Observation ℝ users items → Fin n)
    (rows : List (Observation ℝ users items × Vector ℝ k)) (t : Table ℝ n k) (x : Fin n)
    (j : Fin k) :
    (rows.foldl (fun t r => addRow t (rowOf r.1) r.2) t)[x][j]
      = t[x][j] + (rows.map fun r => if rowOf r.1 = x then r.2[j] else 0).sum := by
  induction rows generalizing t with
  | nil => simp
  | cons r rows ih =>
    rw [List.foldl_cons, ih, addRow_getElem, List.map_cons, List.sum_cons, add_assoc]

/-- The rows that are added are the ratings that count, with their shares. -/
theorem sum_shared (p : Problem ℝ users items) (s : State ℝ users items k)
    (rowOf : Observation ℝ users items → Fin n) (i : Fin n) (j : Fin k) :
    ((((p.train.filter counts).map fun o => (o, shares s o))).map fun r =>
        if rowOf r.1 = i then r.2[j] else 0).sum = gathered p s rowOf i j := by
  unfold gathered ratingsOf
  induction p.train with
  | nil => rfl
  | cons o rest ih =>
    by_cases hv : 0 < o.value
    · rw [List.filter_cons_of_pos ((counts_iff o).mpr hv)]
      by_cases hi : rowOf o = i
      · rw [List.filter_cons_of_pos (by simp [hv, hi])]
        simp only [List.map_cons, List.sum_cons, ih, if_pos hi, shares_getElem]
      · rw [List.filter_cons_of_neg (by simp [hi])]
        simp only [List.map_cons, List.sum_cons, ih, if_neg hi, zero_add]
    · rw [List.filter_cons_of_neg (by rw [counts_iff]; exact hv),
        List.filter_cons_of_neg (by simp [hv])]
      exact ih

/-- Counting adds what a user gathers, and likewise for items. -/
theorem count_users_counted (p : Problem ℝ users items) (s : State ℝ users items k)
    (u : Fin users) (j : Fin k) :
    (count p s).users.counted[u][j]
      = s.users.counted[u][j] + gathered p s Observation.user u j := by
  rw [← sum_shared, ← foldl_addRow_getElem]
  rfl

theorem count_items_counted (p : Problem ℝ users items) (s : State ℝ users items k)
    (i : Fin items) (j : Fin k) :
    (count p s).items.counted[i][j]
      = s.items.counted[i][j] + gathered p s Observation.item i j := by
  rw [← sum_shared, ← foldl_addRow_getElem]
  rfl

/-! ## Renewing -/

/-- A renewed rate is the sum of the means of the other side and the mean of the own activity. -/
theorem renew_rate (prior : SidePrior ℝ) (own : Factor ℝ n k) (other : Factor ℝ m k) (i : Fin n)
    (j : Fin k) :
    (renew prior own other).rate[i][j]
      = ∑ x : Fin m, other.shape[x][j] / other.rate[x][j]
        + own.activityShape[i] / own.activityRate[i] := by
  unfold renew
  rw [Table.getElem_ofFn, Row.getElem_ofFn, Row.getElem_ofFn, Scalar.real_total]
  rfl

/-- A renewed rate of an activity is its prior mean and the sum of the own means. -/
theorem renew_activityRate (prior : SidePrior ℝ) (own : Factor ℝ n k) (other : Factor ℝ m k)
    (i : Fin n) :
    (renew prior own other).activityRate[i]
      = prior.activityShape / prior.activityRate
        + ∑ j : Fin k, own.counted[i][j] / (renew prior own other).rate[i][j] := by
  rw [← Scalar.real_total]
  unfold renew
  rw [Row.getElem_ofFn]

/-- Renewing begins the next count at the prior. -/
theorem renew_counted (prior : SidePrior ℝ) (own : Factor ℝ n k) (other : Factor ℝ m k)
    (i : Fin n) (j : Fin k) : (renew prior own other).counted[i][j] = prior.shape :=
  Table.getElem_constant _ i j

end Rows

end PoissonFactor
