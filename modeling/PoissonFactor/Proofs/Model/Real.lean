import Mathlib.Algebra.BigOperators.Fin
import Mathlib.Analysis.Calculus.LogDeriv
import Mathlib.Analysis.SpecialFunctions.Gamma.Basic
import Mathlib.Analysis.SpecialFunctions.Log.Basic
import PoissonFactor.Model.Scalar

/-!
# The model over the reals

The model's formulas are written over any `Scalar`; this file makes the reals one,
with exact sums, quotients, exponentials and logarithms. Digamma and log-gamma stay
open: a `SpecialFunctions` names some function for each, and what is proved over the
reals holds for every choice unless it says otherwise.
-/

namespace PoissonFactor

/-- A choice of the two special functions. -/
class SpecialFunctions where
  digamma : ℝ → ℝ
  logGamma : ℝ → ℝ

/-- The choice that the names stand for. -/
noncomputable abbrev SpecialFunctions.gamma : SpecialFunctions where
  digamma := logDeriv Real.Gamma
  logGamma x := Real.log (Real.Gamma x)

/-- Exact arithmetic. Every real is finite, and the largest double is still the value that the
first evaluation of a run is measured against. -/
noncomputable instance [SpecialFunctions] : Scalar ℝ where
  ofNat n := n
  exp := Real.exp
  log := Real.log
  log1p x := Real.log (1 + x)
  expm1 x := Real.exp x - 1
  digamma := SpecialFunctions.digamma
  logGamma := SpecialFunctions.logGamma
  abs x := |x|
  larger := max
  smaller := min
  below x y := decide (x < y)
  atMost x y := decide (x ≤ y)
  equal x y := decide (x = y)
  isFinite _ := true
  largest := (2 ^ 53 - 1) * 2 ^ 971

namespace Scalar

variable [SpecialFunctions]

/-- A natural number is itself. -/
@[simp] theorem real_ofNat (n : Nat) : (ofNat n : ℝ) = n := rfl

@[simp] theorem real_zero : (zero : ℝ) = 0 := Nat.cast_zero

@[simp] theorem real_one : (one : ℝ) = 1 := Nat.cast_one

@[simp] theorem real_exp (x : ℝ) : exp x = Real.exp x := rfl

@[simp] theorem real_log (x : ℝ) : log x = Real.log x := rfl

/-- Over the real numbers nothing is lost by taking one away afterwards. -/
@[simp] theorem real_expm1 (x : ℝ) : expm1 x = Real.exp x - 1 := rfl

@[simp] theorem real_abs (x : ℝ) : abs x = |x| := rfl

/-- Comparing gives a flag, as it does for doubles. -/
@[simp] theorem real_below (x y : ℝ) : below x y = decide (x < y) := rfl

@[simp] theorem real_atMost (x y : ℝ) : atMost x y = decide (x ≤ y) := rfl

@[simp] theorem real_equal (x y : ℝ) : equal x y = decide (x = y) := rfl

/-- No real number overflows. -/
@[simp] theorem real_isFinite (x : ℝ) : isFinite x = true := rfl

/-- A real is positive in the model's sense exactly when it is above zero. -/
@[simp] theorem real_isPositive (x : ℝ) : isPositive x = true ↔ 0 < x := by
  unfold isPositive
  simp

/-- The sum over positions, added up from the left, is the sum. -/
@[simp] theorem real_total {n : Nat} (f : Fin n → ℝ) : total f = ∑ i, f i := by
  unfold total
  rw [Fin.foldl_eq_finRange_foldl, real_zero, Fin.sum_univ_def, List.sum_eq_foldl,
    List.foldl_map]

/-- The sum of a list, added up from the left, is its sum. -/
@[simp] theorem real_sum (xs : List ℝ) : sum xs = xs.sum := by
  unfold sum
  rw [real_zero, List.sum_eq_foldl]

end Scalar

end PoissonFactor
