import PoissonFactor.Proofs.Training.Stopping
import PoissonFactor.Training.Arithmetic

/-!
# Exact arithmetic

Rows, settings and splits hold doubles, and a fit computes with what it reads from them. With
the exact values of the doubles, `Arithmetic.exact`, the computations of a plan are those of
the program with its roundings taken out, since both are one definition
(`Plan.evaluateOver`). A double that is infinite or no number has no exact value; the numbers
of the plans that are reasoned about have one (`Number.IsReal`).
-/

namespace PoissonFactor

/-- The exact value of a double. One that is infinite or no number has none. -/
noncomputable def realValue (x : Float) : ℝ :=
  match exactValue x with
  | .finite r => r
  | _ => 0

/-- The number has an exact value. -/
def Number.IsReal (n : Number) : Prop :=
  ∃ r, n.exact = .finite r

instance (n : Number) : Decidable n.IsReal :=
  match h : n.exact with
  | .finite r => .isTrue ⟨r, h⟩
  | .negative | .positive | .nan => .isFalse fun ⟨_, hr⟩ => by cases h.symm.trans hr

/-- The real number of a finite double is its exact value. -/
theorem realValue_eq {x : Float} {r : ℚ} (h : exactValue x = .finite r) : realValue x = r := by
  unfold realValue
  rw [h]

/-- A double above zero stands for a positive number. -/
theorem realValue_pos {x : Float} (hx : (Number.float x).IsReal)
    (h : (Number.int 0).lt (.float x) = true) : 0 < realValue x := by
  obtain ⟨r, hr⟩ := hx
  have hr : exactValue x = .finite r := hr
  have hlt : (Extended.finite ((0 : Int) : ℚ)).lt (exactValue x) = true := h
  rw [hr] at hlt
  have hpos : ((0 : Int) : ℚ) < r := of_decide_eq_true hlt
  rw [realValue_eq hr]
  exact_mod_cast hpos

/-- A double that is not below zero stands for a number that is not. -/
theorem realValue_nonneg {x : Float} (hx : (Number.float x).IsReal)
    (h : (Number.float x).lt (.int 0) = false) : 0 ≤ realValue x := by
  obtain ⟨r, hr⟩ := hx
  have hr : exactValue x = .finite r := hr
  have hlt : (exactValue x).lt (.finite ((0 : Int) : ℚ)) = false := h
  rw [hr] at hlt
  have hge : ¬ r < ((0 : Int) : ℚ) := of_decide_eq_false hlt
  rw [realValue_eq hr]
  exact_mod_cast not_lt.mp hge

/-- Exact reals, with any draws. Reals have no digits to report, so their lines are empty. -/
noncomputable def Arithmetic.exact (draw : Int → Nat → Nat → ℝ) : Arithmetic ℝ where
  ofDouble := realValue
  draw := draw
  within := exactWithin
  line _ := ""

/-- A double has its exact value for a reading. -/
theorem Arithmetic.read_exact (draw : Int → Nat → Nat → ℝ) (x : Float) :
    (Arithmetic.exact draw).read (.float x) = .ok (realValue x) :=
  rfl

end PoissonFactor
