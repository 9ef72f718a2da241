import Mathlib.Algebra.BigOperators.Field
import PoissonFactor.Model.Softmax
import PoissonFactor.Model.Table
import PoissonFactor.Proofs.Model.Real

/-!
# The pairwise recurrence is softmax

A row of log-weights is normalised without ever forming the sum of its
exponentials: `logSum` folds the row from the left with `logAdd`, which only
exponentiates the difference of the smaller and the larger. Over the reals

> `logSum_cons`: the running value is the logarithm of the sum of the exponentials
> taken in so far,

so a normalised entry is its exponential over the sum of all (`softmaxRow_getElem`),
and a normalised row adds up to one (`sum_softmaxRow`).
-/

namespace PoissonFactor

/-! ## Rows and sums -/

/-- A row lists its entries by position. -/
theorem row_toList {β : Type} {n : Nat} (row : Vector β n) :
    row.toList = (List.finRange n).map fun i => row[i] := by
  apply List.ext_getElem
  · simp
  · intro i h1 h2
    simp

/-- The sum over a row, by its entries. -/
theorem sum_map_toList {β : Type} {n : Nat} (row : Vector β n) (f : β → ℝ) :
    (row.toList.map f).sum = ∑ i : Fin n, f row[i] := by
  rw [row_toList, List.map_map, Fin.sum_univ_def]
  rfl

/-- The exponentials of a row with an entry have a positive sum. -/
theorem sum_exp_pos {k : Nat} (row : Vector ℝ k) (j : Fin k) :
    0 < ∑ i : Fin k, Real.exp row[i] :=
  Finset.sum_pos (fun _ _ => Real.exp_pos _) ⟨j, Finset.mem_univ j⟩

/-! ## The recurrence -/

variable [SpecialFunctions]

/-- Adding two logarithms of weights is the logarithm of the added weights, whichever of the two
is larger. -/
theorem logAdd_eq (x y : ℝ) : logAdd x y = Real.log (Real.exp x + Real.exp y) := by
  have hsplit : Real.exp x + Real.exp y
      = Real.exp (max x y) * (1 + Real.exp (min x y - max x y)) := by
    rw [mul_add, mul_one, ← Real.exp_add, add_sub_cancel]
    rcases le_total x y with h | h
    · rw [max_eq_right h, min_eq_left h, add_comm]
    · rw [max_eq_left h, min_eq_right h]
  have hpos : 0 < 1 + Real.exp (min x y - max x y) := by positivity
  rw [hsplit, Real.log_mul (Real.exp_pos _).ne' hpos.ne', Real.log_exp]
  rfl

/-- The invariant of the fold: a running value `log s` takes in the rest of the row. -/
theorem foldl_logAdd {s : ℝ} (hs : 0 < s) (xs : List ℝ) :
    xs.foldl logAdd (Real.log s) = Real.log (s + (xs.map Real.exp).sum) := by
  induction xs generalizing s with
  | nil => simp
  | cons x xs ih =>
    have hx : 0 < s + Real.exp x := add_pos hs (Real.exp_pos x)
    rw [List.foldl_cons, logAdd_eq, Real.exp_log hs, ih hx, List.map_cons, List.sum_cons, add_assoc]

/-- The recurrence computes the logarithm of the sum of the exponentials. -/
theorem logSum_cons (x : ℝ) (xs : List ℝ) :
    logSum (x :: xs) = Real.log (((x :: xs).map Real.exp).sum) := by
  have h := foldl_logAdd (Real.exp_pos x) xs
  rw [Real.log_exp] at h
  rw [List.map_cons, List.sum_cons]
  exact h

/-! ## Normalised rows -/

variable {k : Nat}

/-- **The recurrence is softmax**, for one entry as for many. -/
theorem softmaxRow_getElem (row : Vector ℝ k) (j : Fin k) :
    (softmaxRow row)[j] = Real.exp row[j] / ∑ i : Fin k, Real.exp row[i] := by
  unfold softmaxRow
  by_cases hk : k = 1
  · subst hk
    have hj : j = 0 := Subsingleton.elim j 0
    subst hj
    rw [if_pos rfl, Fin.sum_univ_one, div_self (Real.exp_pos _).ne']
    simp
  · rw [if_neg hk]
    have hlog : logSum row.toList = Real.log (∑ i : Fin k, Real.exp row[i]) := by
      rw [← sum_map_toList row Real.exp]
      cases h : row.toList with
      | nil =>
        have hlen : row.toList.length = k := row.length_toList
        rw [h] at hlen
        exact absurd j.isLt (by simp at hlen; omega)
      | cons x xs => exact logSum_cons x xs
    have hentry : (row.map fun x => Scalar.exp (x - logSum row.toList))[j]
        = Real.exp (row[j] - logSum row.toList) := by simp
    show (row.map fun x => Scalar.exp (x - logSum row.toList))[j] = _
    rw [hentry, hlog, Real.exp_sub, Real.exp_log (sum_exp_pos row j)]

/-- A normalised row adds up to one. -/
theorem sum_softmaxRow (hk : 1 ≤ k) (row : Vector ℝ k) : ∑ j : Fin k, (softmaxRow row)[j] = 1 := by
  have hpos := sum_exp_pos row ⟨0, hk⟩
  simp only [softmaxRow_getElem]
  rw [← Finset.sum_div, div_self hpos.ne']

end PoissonFactor
