import Mathlib.Analysis.Convex.Deriv
import Mathlib.Analysis.Convex.SpecificFunctions.Basic
import Mathlib.Analysis.SpecialFunctions.Gamma.Deriv
import Mathlib.Analysis.SpecialFunctions.Gaussian.GaussianIntegral

/-!
# A gamma mass is log-convex in shape and rate

The function `x ^ (s - 1) * exp (-(r * x))` of a positive `x` has the mass `exp (logMass s r)`.
Its exponent is affine in `(s, r)`, so by convexity of the exponential the logarithm of the mass
is convex in both at once:

> `logMass_tangent_le`: the tangent of `logMass` at one pair of shape and rate lies below its
> value at every other.

The slopes of the tangent are the expected logarithm and the mean of a gamma distribution, which
is how the inequality enters the evidence bound.
-/

namespace PoissonFactor

open MeasureTheory Set

/-- The logarithm of the mass of `x ^ (s - 1) * exp (-(r * x))`. -/
noncomputable def logMass (s r : ℝ) : ℝ :=
  Real.log (Real.Gamma s) - s * Real.log r

/-- The exponent of the mass at a point. -/
noncomputable def massExponent (s r x : ℝ) : ℝ :=
  (s - 1) * Real.log x - r * x

variable {s r a b : ℝ}

/-- The exponent is that of the density, up to a factor. -/
theorem exp_massExponent {x : ℝ} (hx : 0 < x) :
    Real.exp (massExponent s r x) = x ^ (s - 1) * Real.exp (-(r * x)) := by
  unfold massExponent
  rw [Real.rpow_def_of_pos hx, ← Real.exp_add]
  ring_nf

/-- The density has a finite mass. -/
theorem integrableOn_exp_massExponent (hs : 0 < s) (hr : 0 < r) :
    IntegrableOn (fun x => Real.exp (massExponent s r x)) (Ioi 0) := by
  have h := integrableOn_rpow_mul_exp_neg_mul_rpow (show -1 < s - 1 by linarith) one_pos hr
  refine h.congr_fun (fun x hx => ?_) measurableSet_Ioi
  dsimp only
  rw [exp_massExponent hx, Real.rpow_one, neg_mul]

/-- Its logarithm is what the evidence adds up. -/
theorem integral_exp_massExponent (hs : 0 < s) (hr : 0 < r) :
    ∫ x in Ioi 0, Real.exp (massExponent s r x) = Real.exp (logMass s r) := by
  have hmass : Real.exp (logMass s r) = (1 / r) ^ s * Real.Gamma s := by
    unfold logMass
    rw [Real.exp_sub, Real.exp_log (Real.Gamma_pos_of_pos hs), mul_comm s, Real.exp_mul,
      Real.exp_log hr, one_div, Real.inv_rpow hr.le]
    ring
  rw [hmass, ← Real.integral_rpow_mul_exp_neg_mul_Ioi hs hr]
  exact setIntegral_congr_fun measurableSet_Ioi fun x hx => exp_massExponent hx

/-- The logarithm of the mass is convex in shape and rate together. -/
theorem logMass_convex (hs : 0 < s) (hr : 0 < r) (ha : 0 < a) (hb : 0 < b) {p q : ℝ} (hp : 0 ≤ p)
    (hq : 0 ≤ q) (hpq : p + q = 1) :
    logMass (p * s + q * a) (p * r + q * b) ≤ p * logMass s r + q * logMass a b := by
  have hshape : 0 < p * s + q * a := convex_Ioi (0 : ℝ) hs ha hp hq hpq
  have hrate : 0 < p * r + q * b := convex_Ioi (0 : ℝ) hr hb hp hq hpq
  set c := Real.exp (p * logMass s r + q * logMass a b) with hc
  -- Each integrand is divided by its mass before the two are weighed against each other.
  have hpoint (x : ℝ) : Real.exp (massExponent (p * s + q * a) (p * r + q * b) x)
      ≤ c * p * Real.exp (-logMass s r) * Real.exp (massExponent s r x)
        + c * q * Real.exp (-logMass a b) * Real.exp (massExponent a b x) := by
    have hconvex := convexOn_exp.2 (mem_univ (massExponent s r x - logMass s r))
      (mem_univ (massExponent a b x - logMass a b)) hp hq hpq
    simp only [smul_eq_mul] at hconvex
    have hexponent : massExponent (p * s + q * a) (p * r + q * b) x
        = (p * logMass s r + q * logMass a b)
          + (p * (massExponent s r x - logMass s r) + q * (massExponent a b x - logMass a b)) := by
      unfold massExponent
      linear_combination Real.log x * hpq
    calc Real.exp (massExponent (p * s + q * a) (p * r + q * b) x)
        = c * Real.exp (p * (massExponent s r x - logMass s r)
            + q * (massExponent a b x - logMass a b)) := by rw [hexponent, Real.exp_add]
      _ ≤ c * (p * Real.exp (massExponent s r x - logMass s r)
            + q * Real.exp (massExponent a b x - logMass a b)) :=
          mul_le_mul_of_nonneg_left hconvex (Real.exp_pos _).le
      _ = _ := by
          rw [sub_eq_add_neg, sub_eq_add_neg, Real.exp_add, Real.exp_add]
          ring
  have hfirst := (integrableOn_exp_massExponent hs hr).const_mul
    (c * p * Real.exp (-logMass s r))
  have hsecond := (integrableOn_exp_massExponent ha hb).const_mul
    (c * q * Real.exp (-logMass a b))
  have hmass := integral_mono (integrableOn_exp_massExponent hshape hrate) (hfirst.add hsecond)
    hpoint
  have hsum : ∫ x in Ioi 0, (c * p * Real.exp (-logMass s r) * Real.exp (massExponent s r x)
      + c * q * Real.exp (-logMass a b) * Real.exp (massExponent a b x)) = c := by
    rw [integral_add hfirst hsecond, integral_const_mul, integral_const_mul,
      integral_exp_massExponent hs hr, integral_exp_massExponent ha hb, mul_assoc,
      mul_assoc (c * q), ← Real.exp_add, ← Real.exp_add, neg_add_cancel, neg_add_cancel,
      Real.exp_zero]
    linear_combination c * hpq
  have hle : Real.exp (logMass (p * s + q * a) (p * r + q * b)) ≤ c :=
    (integral_exp_massExponent hshape hrate).symm.le.trans (hmass.trans hsum.le)
  exact Real.exp_le_exp.mp hle

/-! ## The tangent -/

/-- Every point of a segment between two positive ends is positive. -/
theorem segment_pos {x y θ : ℝ} (hx : 0 < x) (hy : 0 < y) (h0 : 0 ≤ θ) (h1 : θ ≤ 1) :
    0 < x + θ * (y - x) := by
  have hsplit : x + θ * (y - x) = (1 - θ) * x + θ * y := by ring
  rw [hsplit]
  exact convex_Ioi (0 : ℝ) hx hy (sub_nonneg.mpr h1) h0 (sub_add_cancel 1 θ)

/-- Along a segment the logarithm of the mass is convex. -/
theorem convexOn_logMass_segment (hs : 0 < s) (hr : 0 < r) (ha : 0 < a) (hb : 0 < b) :
    ConvexOn ℝ (Icc 0 1) fun θ => logMass (s + θ * (a - s)) (r + θ * (b - r)) := by
  refine ⟨convex_Icc 0 1, ?_⟩
  intro x hx y hy p q hp hq hpq
  simp only [smul_eq_mul]
  have hpoint (u v : ℝ) : u + (p * x + q * y) * (v - u)
      = p * (u + x * (v - u)) + q * (u + y * (v - u)) := by
    linear_combination (-u) * hpq
  rw [hpoint s a, hpoint r b]
  exact logMass_convex (segment_pos hs ha hx.1 hx.2) (segment_pos hr hb hx.1 hx.2)
    (segment_pos hs ha hy.1 hy.2) (segment_pos hr hb hy.1 hy.2) hp hq hpq

/-- The logarithm of the gamma function has the derivative that is called digamma. -/
theorem hasDerivAt_log_Gamma (hs : 0 < s) :
    HasDerivAt (fun x => Real.log (Real.Gamma x)) (logDeriv Real.Gamma s) s := by
  have hnat : ∀ m : ℕ, s ≠ -m := fun m => by
    have : (0 : ℝ) ≤ m := m.cast_nonneg
    linarith
  exact (Real.differentiableAt_Gamma hnat).hasDerivAt.log (Real.Gamma_pos_of_pos hs).ne'

/-- **The tangent lies below.** The logarithm of a mass is at least what the tangent at another
shape and rate gives. -/
theorem logMass_tangent_le (hs : 0 < s) (hr : 0 < r) (ha : 0 < a) (hb : 0 < b) :
    logMass s r + ((logDeriv Real.Gamma s - Real.log r) * (a - s) - s / r * (b - r))
      ≤ logMass a b := by
  have hshape : HasDerivAt (fun θ => s + θ * (a - s)) (a - s) 0 := by
    simpa using ((hasDerivAt_id (0 : ℝ)).mul_const (a - s)).const_add s
  have hrate : HasDerivAt (fun θ => r + θ * (b - r)) (b - r) 0 := by
    simpa using ((hasDerivAt_id (0 : ℝ)).mul_const (b - r)).const_add r
  have hgamma : HasDerivAt (fun θ => Real.log (Real.Gamma (s + θ * (a - s))))
      (logDeriv Real.Gamma s * (a - s)) 0 :=
    (hasDerivAt_log_Gamma hs).comp_of_eq 0 hshape (by ring)
  have hlog : HasDerivAt (fun θ => Real.log (r + θ * (b - r))) ((b - r) / r) 0 := by
    have h := hrate.log (by simpa using hr.ne')
    simpa using h
  have hderiv : HasDerivAt (fun θ => logMass (s + θ * (a - s)) (r + θ * (b - r)))
      ((logDeriv Real.Gamma s - Real.log r) * (a - s) - s / r * (b - r)) 0 := by
    refine (hgamma.sub (hshape.mul hlog)).congr_deriv ?_
    simp only [zero_mul, add_zero]
    ring
  have hslope := (convexOn_logMass_segment hs hr ha hb).le_slope_of_hasDerivAt
    (left_mem_Icc.mpr zero_le_one) (right_mem_Icc.mpr zero_le_one) zero_lt_one hderiv
  rw [slope_def_field] at hslope
  simp only [zero_mul, add_zero, one_mul, add_sub_cancel, sub_zero, div_one] at hslope
  linarith

end PoissonFactor
