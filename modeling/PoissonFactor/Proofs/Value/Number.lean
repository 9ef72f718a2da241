import Mathlib.Data.Int.Cast.Lemmas
import Mathlib.Data.Rat.Cast.Order
import PoissonFactor.Value.Number

/-!
# Exact comparisons

Integers are compared as integers (`Number.int_le_int`, `Number.int_lt_int`), and what lies at or
below one lies at or below every later one (`Number.le_int_of_le`).
-/

namespace PoissonFactor

/-- Integers are compared as integers, without going through doubles. -/
theorem Number.int_le_int (i j : Int) : (Number.int i).le (.int j) = true ↔ i ≤ j := by
  show (decide ((i : Rat) < j) || decide ((i : Rat) = j)) = true ↔ i ≤ j
  rw [Bool.or_eq_true, decide_eq_true_iff, decide_eq_true_iff, Int.cast_lt, Int.cast_inj,
    le_iff_lt_or_eq]

theorem Number.int_lt_int (i j : Int) : (Number.int i).lt (.int j) = true ↔ i < j := by
  show decide ((i : Rat) < j) = true ↔ i < j
  rw [decide_eq_true_iff, Int.cast_lt]

/-- What is below an integer is below every larger one, a double as well. -/
theorem Number.le_int_of_le {n : Number} {i j : Int} (h : n.le (.int i) = true) (hij : i ≤ j) :
    n.le (.int j) = true := by
  have hcast : (i : Rat) ≤ j := Int.cast_le.mpr hij
  unfold Number.le Extended.le at h ⊢
  show ((n.exact.lt (.finite j)) || (n.exact.eq (.finite j))) = true
  change ((n.exact.lt (.finite i)) || (n.exact.eq (.finite i))) = true at h
  cases hn : n.exact with
  | nan =>
    rw [hn] at h
    exact h
  | negative => rfl
  | positive =>
    rw [hn] at h
    exact h
  | finite r =>
    rw [hn] at h
    have hr : r ≤ i := by
      rcases Bool.or_eq_true_iff.mp h with hlt | heq
      · exact le_of_lt (of_decide_eq_true hlt)
      · exact le_of_eq (of_decide_eq_true heq)
    rcases lt_or_eq_of_le (hr.trans hcast) with hlt | heq
    · exact Bool.or_eq_true_iff.mpr (Or.inl (decide_eq_true hlt))
    · exact Bool.or_eq_true_iff.mpr (Or.inr (decide_eq_true heq))

/-- Whatever stands for a number can be compared. -/
theorem Value.comparable_of_number {v : Value} {n : Number} (h : v.number? = some n) :
    v.comparable = .ok n := by
  unfold comparable
  rw [h]

end PoissonFactor
