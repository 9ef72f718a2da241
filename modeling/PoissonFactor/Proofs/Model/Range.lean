import Mathlib.Order.Interval.Finset.Fin
import PoissonFactor.Proofs.Model.Normalize

/-!
# The recurrence never leaves its range

While a row of log-weights is normalised, the running value lies between the largest entry taken
in so far and that plus the logarithm of how many there were:

> `Row.running_bounds`: no running value is below an entry that was taken in, nor above their
> largest by more than the logarithm of their number.

So the exponentials that are formed on the way are of numbers that are not above zero. To say this
of every exponential, and not only of those one happens to look at, the same code is run in an
arithmetic that keeps a record: a number is `Traced` together with all arguments that `exp` and
`log1p` had on the way to it. Main result:

> `Grid.normalize_in_range`: the arguments on record are those of the recurrence and no others;
> all are in range, and so is what comes out.
-/

namespace PoissonFactor

/-! ## Running values -/

section

variable {α : Type} {m k : Nat}

theorem Row.take_toList_succ (row : Vector α k) {n : Nat} (h : n < k) :
    row.toList.take (n + 1) = row.toList.take n ++ [row[n]] := by
  rw [List.take_succ_eq_append_getElem (by rw [row.length_toList]; exact h), Vector.getElem_toList]

variable [Scalar α]

/-- The logarithm that runs along a row, once the entries up to a column are taken in. -/
def Row.running (row : Vector α k) (c : Fin k) : α :=
  logSum (row.toList.take (c + 1))

/-- The logarithms that run along all rows at once, column by column. -/
def Columns.running (t : Table α m k) (c : Fin k) : Vector α m :=
  match (List.finRange k).take (c + 1) with
  | [] => Vector.ofFn fun _ => Scalar.zero
  | j :: rest => rest.foldl (fun acc j => Vector.zipWith logAdd acc (column t j)) (column t j)

theorem logSum_concat {xs : List α} (h : xs ≠ []) (x : α) :
    logSum (xs ++ [x]) = logAdd (logSum xs) x := by
  obtain ⟨y, ys, rfl⟩ := List.exists_cons_of_ne_nil h
  show (ys ++ [x]).foldl logAdd y = logAdd (ys.foldl logAdd y) x
  rw [List.foldl_concat]

theorem Row.running_zero (row : Vector α (k + 1)) :
    Row.running row 0 = row[(0 : Fin (k + 1))] := by
  unfold Row.running
  rw [Fin.val_zero, Row.take_toList_succ row (Nat.succ_pos k), List.take_zero]
  rfl

/-- One step of the recurrence. -/
theorem Row.running_succ (row : Vector α (k + 1)) (c : Fin k) :
    Row.running row c.succ = logAdd (Row.running row c.castSucc) row[c.succ] := by
  have hne : row.toList.take (c + 1) ≠ [] := by
    rw [Ne, List.eq_nil_iff_length_eq_zero, List.length_take, row.length_toList]
    omega
  unfold Row.running
  rw [Fin.val_succ, Row.take_toList_succ row (Nat.succ_lt_succ c.isLt), logSum_concat hne]
  rfl

theorem Row.running_last (row : Vector α (k + 1)) :
    Row.running row (Fin.last k) = logSum row.toList := by
  unfold Row.running
  rw [Fin.val_last, List.take_of_length_le (by rw [row.length_toList])]

/-- A row of two entries or more is normalised by what its recurrence ends with. -/
theorem softmaxRow_running (row : Vector α (k + 2)) (j : Fin (k + 2)) :
    (softmaxRow row)[j] = Scalar.exp (row[j] - Row.running row (Fin.last (k + 1))) := by
  have hmany : k + 2 ≠ 1 := by omega
  unfold softmaxRow
  rw [if_neg hmany, Row.getElem_map, Row.running_last]

/-- All rows at once, the running logarithm of a row is its own. -/
theorem Columns.running_getElem (t : Table α m k) (c : Fin k) (i : Fin m) :
    (Columns.running t c)[i] = Row.running t[i] c := by
  unfold Columns.running Row.running
  rw [row_toList, ← List.map_take]
  cases (List.finRange k).take (c + 1) with
  | nil => exact Row.getElem_ofFn _ i
  | cons j columns =>
    dsimp only
    rw [foldl_logAdd_getElem, column_getElem]
    rfl

end

/-! ## Between the largest entry and a little more -/

section

variable {k : Nat}

/-- The largest entry of a row up to a column. -/
noncomputable def Row.largestUpTo (row : Vector ℝ k) (c : Fin k) : ℝ :=
  (Finset.Iic c).sup' Finset.nonempty_Iic fun j : Fin k => row[j]

/-- The largest entry of a row. -/
noncomputable def Row.largest (row : Vector ℝ (k + 1)) : ℝ :=
  Finset.univ.sup' Finset.univ_nonempty fun j : Fin (k + 1) => row[j]

/-- The smallest entry of a row. -/
noncomputable def Row.smallest (row : Vector ℝ (k + 1)) : ℝ :=
  Finset.univ.inf' Finset.univ_nonempty fun j : Fin (k + 1) => row[j]

theorem mem_take_toList {row : Vector ℝ k} {c : Fin k} {x : ℝ} :
    x ∈ row.toList.take (c + 1) ↔ ∃ j ≤ c, row[j] = x := by
  rw [List.mem_take_iff_getElem]
  constructor
  · rintro ⟨i, hi, rfl⟩
    rw [row.length_toList] at hi
    refine ⟨⟨i, by omega⟩, ?_, ?_⟩
    · exact Fin.le_def.mpr (by dsimp only; omega)
    · exact (Vector.getElem_toList _).symm
  · rintro ⟨j, hj, rfl⟩
    have hle : (j : Nat) ≤ c := hj
    refine ⟨j, ?_, Vector.getElem_toList _⟩
    rw [row.length_toList]
    omega

theorem Row.le_largest (row : Vector ℝ (k + 1)) (j : Fin (k + 1)) : row[j] ≤ Row.largest row :=
  Finset.le_sup' (fun j : Fin (k + 1) => row[j]) (Finset.mem_univ j)

variable [SpecialFunctions]

/-- The logarithm of a sum of exponentials is above each of them. -/
theorem le_logSum {xs : List ℝ} {x : ℝ} (h : x ∈ xs) : x ≤ logSum xs := by
  obtain ⟨y, ys, rfl⟩ := List.exists_cons_of_ne_nil (List.ne_nil_of_mem h)
  have hterm : Real.exp x ≤ ((y :: ys).map Real.exp).sum := by
    refine List.single_le_sum ?_ _ (List.mem_map_of_mem h)
    intro z hz
    obtain ⟨w, -, rfl⟩ := List.mem_map.mp hz
    exact (Real.exp_pos w).le
  rw [logSum_cons, Real.le_log_iff_exp_le ((Real.exp_pos x).trans_le hterm)]
  exact hterm

/-- It is above a bound of them by the logarithm of their number at most. -/
theorem logSum_le {xs : List ℝ} (hne : xs ≠ []) {bound : ℝ} (h : ∀ x ∈ xs, x ≤ bound) :
    logSum xs ≤ bound + Real.log xs.length := by
  obtain ⟨y, ys, rfl⟩ := List.exists_cons_of_ne_nil hne
  have hlength : (0 : ℝ) < (y :: ys).length := by
    rw [List.length_cons]
    positivity
  have hterm : Real.exp y ≤ ((y :: ys).map Real.exp).sum :=
    List.single_le_sum (by simp [Real.exp_nonneg]) _ (by simp)
  have hsum : ((y :: ys).map Real.exp).sum ≤ (y :: ys).length * Real.exp bound := by
    have hle := List.sum_le_card_nsmul ((y :: ys).map Real.exp) (Real.exp bound) fun z hz => by
      obtain ⟨x, hx, rfl⟩ := List.mem_map.mp hz
      exact Real.exp_le_exp.mpr (h x hx)
    rwa [List.length_map, nsmul_eq_mul] at hle
  rw [logSum_cons]
  calc Real.log ((y :: ys).map Real.exp).sum
      ≤ Real.log ((y :: ys).length * Real.exp bound) :=
        Real.log_le_log ((Real.exp_pos y).trans_le hterm) hsum
    _ = bound + Real.log (y :: ys).length := by
        rw [Real.log_mul hlength.ne' (Real.exp_pos bound).ne', Real.log_exp, add_comm]

/-- **A running value is not below any entry that was taken in, and hardly above the largest.** -/
theorem Row.running_bounds (row : Vector ℝ k) (c : Fin k) :
    Row.largestUpTo row c ≤ Row.running row c
      ∧ Row.running row c ≤ Row.largestUpTo row c + Real.log (c + 1) := by
  constructor
  · refine Finset.sup'_le _ _ fun j hj => le_logSum ?_
    exact mem_take_toList.mpr ⟨j, Finset.mem_Iic.mp hj, rfl⟩
  · have hlength : (row.toList.take (c + 1)).length = c + 1 := by
      rw [List.length_take, row.length_toList]
      omega
    have hne : row.toList.take (c + 1) ≠ [] := by
      rw [Ne, List.eq_nil_iff_length_eq_zero, hlength]
      exact Nat.succ_ne_zero c
    have hlargest : ∀ x ∈ row.toList.take (c + 1), x ≤ Row.largestUpTo row c := by
      intro x hx
      obtain ⟨j, hj, rfl⟩ := mem_take_toList.mp hx
      exact Finset.le_sup' (fun j : Fin k => row[j]) (Finset.mem_Iic.mpr hj)
    have hle := logSum_le hne hlargest
    rwa [hlength, Nat.cast_add, Nat.cast_one] at hle

/-- So it is between the smallest entry and the largest plus the logarithm of the width. -/
theorem Row.running_between (row : Vector ℝ (k + 1)) (c : Fin (k + 1)) :
    Row.smallest row ≤ Row.running row c
      ∧ Row.running row c ≤ Row.largest row + Real.log ((k + 1 : Nat) : ℝ) := by
  obtain ⟨hlow, hhigh⟩ := Row.running_bounds row c
  have hsmall : Row.smallest row ≤ Row.largestUpTo row c :=
    (Finset.inf'_le (fun j : Fin (k + 1) => row[j]) (Finset.mem_univ c)).trans
      (Finset.le_sup' (fun j : Fin (k + 1) => row[j]) (Finset.mem_Iic.mpr le_rfl))
  have hlarge : Row.largestUpTo row c ≤ Row.largest row :=
    Finset.sup'_le _ _ fun j _ => Row.le_largest row j
  have hwidth : Real.log (c + 1) ≤ Real.log ((k + 1 : Nat) : ℝ) := by
    have hc : ((c + 1 : Nat) : ℝ) ≤ (k + 1 : Nat) := Nat.cast_le.mpr c.isLt
    rw [Nat.cast_add, Nat.cast_one] at hc
    exact Real.log_le_log (by positivity) hc
  exact ⟨hsmall.trans hlow, by linarith⟩

/-- An entry is never above the value that a row's recurrence ends with. -/
theorem Row.sub_running_last_nonpos (row : Vector ℝ (k + 1)) (j : Fin (k + 1)) :
    row[j] - Row.running row (Fin.last k) ≤ 0 := by
  have hmem : row[j] ∈ row.toList.take (Fin.last k + 1) :=
    mem_take_toList.mpr ⟨j, Fin.le_last j, rfl⟩
  exact sub_nonpos.mpr (le_logSum hmem)

/-- What is exponentiated when the recurrence takes in one more column: the smaller of the running
value and the entry, less the larger. -/
noncomputable def Row.gap (row : Vector ℝ (k + 1)) (c : Fin k) : ℝ :=
  min (Row.running row c.castSucc) row[c.succ] - max (Row.running row c.castSucc) row[c.succ]

theorem Row.gap_nonpos (row : Vector ℝ (k + 1)) (c : Fin k) : Row.gap row c ≤ 0 :=
  sub_nonpos.mpr (min_le_max)

end

/-! ## Arithmetic with a record -/

/-- A real number with all arguments that `exp` and `log1p` had on the way to it. -/
structure Traced where
  value : ℝ
  exponents : Set ℝ
  increments : Set ℝ

namespace Traced

/-- A number that nothing was done for. -/
def given (x : ℝ) : Traced where
  value := x
  exponents := ∅
  increments := ∅

/-- A number made from one other. -/
def from₁ (f : ℝ → ℝ) (x : Traced) : Traced :=
  { x with value := f x.value }

/-- A number made from two others. -/
def from₂ (f : ℝ → ℝ → ℝ) (x y : Traced) : Traced where
  value := f x.value y.value
  exponents := x.exponents ∪ y.exponents
  increments := x.increments ∪ y.increments

variable [SpecialFunctions]

/-- Exact arithmetic that keeps the record. -/
noncomputable instance : Scalar Traced where
  add := from₂ (· + ·)
  sub := from₂ (· - ·)
  mul := from₂ (· * ·)
  div := from₂ (· / ·)
  neg := from₁ (- ·)
  ofNat n := given (Scalar.ofNat n)
  exp x :=
    { value := Scalar.exp x.value
      exponents := insert x.value x.exponents
      increments := x.increments }
  log := from₁ Scalar.log
  log1p x :=
    { value := Scalar.log1p x.value
      exponents := x.exponents
      increments := insert x.value x.increments }
  expm1 := from₁ Scalar.expm1
  digamma := from₁ Scalar.digamma
  logGamma := from₁ Scalar.logGamma
  abs := from₁ Scalar.abs
  larger := from₂ Scalar.larger
  smaller := from₂ Scalar.smaller
  below x y := Scalar.below x.value y.value
  atMost x y := Scalar.atMost x.value y.value
  equal x y := Scalar.equal x.value y.value
  isFinite x := Scalar.isFinite x.value
  largest := given Scalar.largest

theorem logAdd_value (x y : Traced) : (logAdd x y).value = logAdd x.value y.value := rfl

/-- What a step adds to the record. -/
theorem logAdd_given (x : Traced) (y : ℝ) :
    (logAdd x (given y)).exponents = insert (min x.value y - max x.value y) x.exponents
      ∧ (logAdd x (given y)).increments
        = insert (Real.exp (min x.value y - max x.value y)) x.increments := by
  have hexponents : (logAdd x (given y)).exponents
      = x.exponents ∪ ∅ ∪ insert (min x.value y - max x.value y)
          (x.exponents ∪ ∅ ∪ (x.exponents ∪ ∅)) := rfl
  have hincrements : (logAdd x (given y)).increments
      = x.increments ∪ ∅ ∪ insert (Real.exp (min x.value y - max x.value y))
          (x.increments ∪ ∅ ∪ (x.increments ∪ ∅)) := rfl
  rw [hexponents, hincrements]
  simp only [Set.union_empty, Set.union_self, Set.union_insert, true_and]

/-- Every argument on record is in range. -/
structure InRange (x : Traced) : Prop where
  exponents : ∀ y ∈ x.exponents, y ≤ 0
  increments : ∀ y ∈ x.increments, 0 < y ∧ y ≤ 1

end Traced

/-! ## Rows on record -/

section

variable {m k : Nat}

/-- A row that nothing was done for. -/
def Row.given (row : Vector ℝ k) : Vector Traced k :=
  row.map Traced.given

/-- A table that nothing was done for. -/
def Table.given (t : Table ℝ m k) : Table Traced m k :=
  t.map Row.given

theorem Row.getElem_given (row : Vector ℝ k) (j : Fin k) : (Row.given row)[j] = .given row[j] :=
  Row.getElem_map _ row j

variable [SpecialFunctions]

/-- With a record the running value is the same, and on record are the steps up to the column. -/
theorem Row.running_given (row : Vector ℝ (k + 1)) (c : Fin (k + 1)) :
    (Row.running (Row.given row) c).value = Row.running row c
      ∧ (Row.running (Row.given row) c).exponents
        = {y | ∃ d : Fin k, d.castSucc < c ∧ Row.gap row d = y}
      ∧ (Row.running (Row.given row) c).increments
        = {y | ∃ d : Fin k, d.castSucc < c ∧ Real.exp (Row.gap row d) = y} := by
  induction c using Fin.induction with
  | zero =>
    rw [Row.running_zero, Row.running_zero, Row.getElem_given]
    refine ⟨rfl, ?_, ?_⟩
    · simp [Traced.given]
    · simp [Traced.given]
  | succ c ih =>
    obtain ⟨hvalue, hexponents, hincrements⟩ := ih
    obtain ⟨hstep, hstep'⟩ := (Row.running (Row.given row) c.castSucc).logAdd_given row[c.succ]
    rw [Row.running_succ, Row.running_succ, Row.getElem_given, Traced.logAdd_value, hstep, hstep',
      hvalue, hexponents, hincrements]
    -- The columns before the next one are those before this one, and this one.
    have hsplit : ∀ d : Fin k, d.castSucc < c.succ ↔ d = c ∨ d.castSucc < c.castSucc := by
      intro d
      rw [Fin.castSucc_lt_succ_iff, Fin.castSucc_lt_castSucc_iff, le_iff_eq_or_lt]
    refine ⟨rfl, ?_, ?_⟩
    · ext y
      simp only [Set.mem_insert_iff, Set.mem_ofPred_eq, hsplit, or_and_right, exists_or,
        exists_eq_left]
      rw [Row.gap, eq_comm]
    · ext y
      simp only [Set.mem_insert_iff, Set.mem_ofPred_eq, hsplit, or_and_right, exists_or,
        exists_eq_left]
      rw [Row.gap, eq_comm]

/-- What is on record when a row of two entries or more has been normalised. -/
theorem softmaxRow_given (row : Vector ℝ (k + 2)) (j : Fin (k + 2)) :
    (softmaxRow (Row.given row))[j].value = (softmaxRow row)[j]
      ∧ (softmaxRow (Row.given row))[j].exponents
        = insert (row[j] - Row.running row (Fin.last (k + 1))) (Set.range (Row.gap row))
      ∧ (softmaxRow (Row.given row))[j].increments
        = Set.range fun c => Real.exp (Row.gap row c) := by
  obtain ⟨hvalue, hexponents, hincrements⟩ := Row.running_given row (Fin.last (k + 1))
  have hpast : ∀ d : Fin (k + 1), d.castSucc < Fin.last (k + 1) := Fin.castSucc_lt_last
  simp only [hpast, true_and] at hexponents hincrements
  rw [softmaxRow_running, softmaxRow_running, Row.getElem_given, ← hvalue]
  refine ⟨rfl, ?_, ?_⟩
  · show insert _ (∅ ∪ (Row.running (Row.given row) (Fin.last (k + 1))).exponents) = _
    rw [hexponents, Set.empty_union]
    rfl
  · show ∅ ∪ (Row.running (Row.given row) (Fin.last (k + 1))).increments = _
    rw [hincrements, Set.empty_union]
    rfl

/-- All of it is in range. -/
theorem inRange_softmaxRow (row : Vector ℝ (k + 2)) (j : Fin (k + 2)) :
    (softmaxRow (Row.given row))[j].InRange := by
  obtain ⟨-, hexponents, hincrements⟩ := softmaxRow_given row j
  constructor
  · rw [hexponents]
    rintro y (rfl | ⟨c, rfl⟩)
    · exact Row.sub_running_last_nonpos row j
    · exact Row.gap_nonpos row c
  · rw [hincrements]
    rintro y ⟨c, rfl⟩
    exact ⟨Real.exp_pos _, Real.exp_le_one_iff.mpr (Row.gap_nonpos row c)⟩

theorem softmaxRow_mem_range (row : Vector ℝ (k + 2)) (j : Fin (k + 2)) :
    0 < (softmaxRow row)[j] ∧ (softmaxRow row)[j] ≤ 1 := by
  rw [softmaxRow_running]
  exact ⟨Real.exp_pos _, Real.exp_le_one_iff.mpr (Row.sub_running_last_nonpos row j)⟩

/-- **Normalising stays in range.** For a table with any number of rows, of two entries or more,
the running value of a row is never below the largest entry taken in so far nor above it by more
than the logarithm of how many there were; so it stays between the smallest entry and the largest
plus the logarithm of the width. It is the same value whether a row is taken by itself or all rows
column by column. With a record of what `exp` and `log1p` are applied to, every way to normalise
gives the same numbers as without. On record are, for each entry, the differences of the smaller
and the larger at every step and the entry less the last running value, and for `log1p` the
exponentials of the former: the first are not above zero, the second are above zero and at most
one, and so is what comes out. -/
theorem Grid.normalize_in_range (t : Table ℝ m (k + 2)) :
    (∀ (i : Fin m) (c : Fin (k + 2)),
        (Row.largestUpTo t[i] c ≤ Row.running t[i] c
          ∧ Row.running t[i] c ≤ Row.largestUpTo t[i] c + Real.log (c + 1))
        ∧ (Row.smallest t[i] ≤ Row.running t[i] c
          ∧ Row.running t[i] c ≤ Row.largest t[i] + Real.log ((k + 2 : Nat) : ℝ))
        ∧ (Columns.running t c)[i] = Row.running t[i] c)
      ∧ ∃ p : Table Traced m (k + 2),
        ((ofTable (Table.given t)).normalize = .ok (ofTable p)
          ∧ (ofTable (Table.given t)).normalizeRows = .ok (ofTable p)
          ∧ Columns.softmaxRows (Table.given t) = p
          ∧ ∀ i : Fin m, (ofRow (Row.given t[i])).normalize = .ok (ofRow p[i]))
        ∧ (ofTable t).normalize = .ok (ofTable (p.map (Vector.map Traced.value)))
        ∧ ∀ (i : Fin m) (j : Fin (k + 2)),
          p[i][j].exponents
              = insert (t[i][j] - Row.running t[i] (Fin.last (k + 1))) (Set.range (Row.gap t[i]))
            ∧ (p[i][j].increments = Set.range fun c => Real.exp (Row.gap t[i] c))
            ∧ p[i][j].InRange
            ∧ 0 < p[i][j].value ∧ p[i][j].value ≤ 1 := by
  have hwide : 1 ≤ k + 2 := by omega
  have hrow : ∀ i : Fin m, ((Table.given t).map softmaxRow)[i] = softmaxRow (Row.given t[i]) := by
    intro i
    rw [Row.getElem_map, Table.given, Row.getElem_map]
  refine ⟨?_, (Table.given t).map softmaxRow, ⟨?_, ?_, ?_, ?_⟩, ?_, ?_⟩
  · intro i c
    exact ⟨Row.running_bounds t[i] c, Row.running_between t[i] c, Columns.running_getElem t c i⟩
  · exact (normalize_ofTable hwide _).1
  · exact (normalize_ofTable hwide _).2
  · apply Row.ext
    intro i
    rw [Columns.softmaxRows_getElem, Row.getElem_map]
  · intro i
    rw [normalize_ofRow hwide, hrow]
  · rw [(normalize_ofTable hwide t).1]
    congr 2
    apply Table.ext
    intro i j
    rw [Row.getElem_map, Row.getElem_map, hrow, Row.getElem_map, (softmaxRow_given t[i] j).1]
  · intro i j
    obtain ⟨hvalue, hexponents, hincrements⟩ := softmaxRow_given t[i] j
    rw [hrow, hvalue]
    exact ⟨hexponents, hincrements, inRange_softmaxRow t[i] j, softmaxRow_mem_range t[i] j⟩

end

end PoissonFactor
