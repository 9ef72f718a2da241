import Mathlib.Data.Nat.Cast.Order.Field
import PoissonFactor.Decimal.Digits
import PoissonFactor.Proofs.Decimal.Rounding

/-!
# Digits that read back

The digits that are chosen for a double are among the numbers it is nearest to
(`Decimal.roundsTo_shortest`), so that reading them gives the double again. A run of digits is
taken for one of two reasons: it passed the test (`Decimal.readsBack_iff`), or it has
seventeen places, and then the error is below `10^-16` of the number, which is less than half the
way to either neighbour (`Decimal.roundsTo_of_seventeen`).
-/

namespace PoissonFactor.Decimal

/-- The number that digits stand for. -/
def Digits.value (d : Digits) : ℚ :=
  (d.digits : ℚ) * 10 ^ d.exponent

variable {m : Nat} {q : Int}

/-! ## How large a number is -/

/-- A number is below the power of ten that its digits tell. -/
theorem lt_pow_digitCount (n : Nat) : n < 10 ^ digitCount n := by
  induction n using digitCount.induct with
  | case1 => exact Nat.pow_pos (by decide)
  | case2 n hn ih =>
    unfold digitCount
    rw [if_neg hn, Nat.pow_succ]
    omega

/-- And not below the one before that. -/
theorem pow_le_of_digitCount {n : Nat} (h : n ≠ 0) : 10 ^ (digitCount n - 1) ≤ n := by
  induction n using digitCount.induct with
  | case1 => exact absurd rfl h
  | case2 n hn ih =>
    unfold digitCount
    rw [if_neg hn, Nat.add_sub_cancel]
    by_cases hsmall : n / 10 = 0
    · rw [hsmall, digitCount, if_pos rfl]
      omega
    · have hrest := ih hsmall
      have hcount : digitCount (n / 10) = digitCount (n / 10) - 1 + 1 := by
        unfold digitCount
        rw [if_neg hsmall]
        omega
      rw [hcount, Nat.pow_succ]
      omega

theorem digitCount_pos {n : Nat} (h : n ≠ 0) : 0 < digitCount n := by
  unfold digitCount
  rw [if_neg h]
  exact Nat.succ_pos _

/-- The decimal point stands no further right than behind the first digit. -/
theorem pow_decimalPoint_le {num den : Nat} (hnum : 0 < num) (hden : 0 < den) :
    (10 : ℚ) ^ (decimalPoint num den - 1) ≤ (num : ℚ) / den := by
  have hden' : (0 : ℚ) < den := Nat.cast_pos.mpr hden
  unfold decimalPoint
  split_ifs with hle
  · have hquotient : num / den ≠ 0 := (Nat.div_pos hle hden).ne'
    have hplace : (digitCount (num / den) : Int) - 1
        = ((digitCount (num / den) - 1 : Nat) : Int) := by
      have hcount := digitCount_pos hquotient
      omega
    have hpow : ((10 ^ (digitCount (num / den) - 1) : Nat) : ℚ) ≤ ((num / den : Nat) : ℚ) :=
      Nat.cast_le.mpr (pow_le_of_digitCount hquotient)
    rw [hplace, zpow_natCast]
    rw [Nat.cast_pow, Nat.cast_ofNat] at hpow
    exact hpow.trans Nat.cast_div_le
  · -- The reciprocal, rounded up, is at most the next power of ten.
    have hceil : den ≤ ((den + num - 1) / num - 1 + 1) * num := by
      have hdiv : (den + num - 1) / num * num + (den + num - 1) % num = den + num - 1 :=
        Nat.div_add_mod' _ _
      have hmod : (den + num - 1) % num < num := Nat.mod_lt _ hnum
      have hone : 0 < (den + num - 1) / num := Nat.div_pos (by omega) hnum
      rw [Nat.sub_add_cancel hone]
      omega
    have hpow : den ≤ 10 ^ digitCount ((den + num - 1) / num - 1) * num :=
      hceil.trans (Nat.mul_le_mul_right num (lt_pow_digitCount _))
    have hcast : (den : ℚ) ≤ 10 ^ digitCount ((den + num - 1) / num - 1) * num := by
      exact_mod_cast hpow
    rw [sub_sub_cancel_left, zpow_neg, zpow_natCast, le_div_iff₀ hden',
      inv_mul_le_iff₀ (by positivity)]
    exact hcast

/-- And no further left than in front of it. -/
theorem lt_pow_decimalPoint {num den : Nat} (hnum : 0 < num) (hden : 0 < den) :
    (num : ℚ) / den < 10 ^ decimalPoint num den := by
  have hden' : (0 : ℚ) < den := Nat.cast_pos.mpr hden
  unfold decimalPoint
  split_ifs with hle
  · have hlt : num < 10 ^ digitCount (num / den) * den := by
      have hdiv : num < (num / den + 1) * den := Nat.lt_mul_of_div_lt (Nat.lt_succ_self _) hden
      exact hdiv.trans_le (Nat.mul_le_mul_right den (lt_pow_digitCount _))
    rw [zpow_natCast, div_lt_iff₀ hden']
    exact_mod_cast hlt
  · -- The reciprocal is above every whole number below it when it is rounded up.
    have hceil : ((den + num - 1) / num - 1) * num < den := by
      have hdiv : (den + num - 1) / num * num ≤ den + num - 1 := Nat.div_mul_le_self _ _
      rw [Nat.sub_mul, Nat.one_mul]
      omega
    have hone : (den + num - 1) / num - 1 ≠ 0 := by
      have htwo : 2 ≤ (den + num - 1) / num := (Nat.le_div_iff_mul_le hnum).mpr (by omega)
      omega
    have hpow : 10 ^ (digitCount ((den + num - 1) / num - 1) - 1) * num < den :=
      (Nat.mul_le_mul_right num (pow_le_of_digitCount hone)).trans_lt hceil
    have hplace : 1 - (digitCount ((den + num - 1) / num - 1) : Int)
        = -((digitCount ((den + num - 1) / num - 1) - 1 : Nat) : Int) := by
      have hcount := digitCount_pos hone
      omega
    have hcast : (10 ^ (digitCount ((den + num - 1) / num - 1) - 1) : ℚ) * num < den := by
      exact_mod_cast hpow
    rw [hplace, zpow_neg, zpow_natCast, div_lt_iff₀ hden', lt_inv_mul_iff₀ (by positivity)]
    exact hcast

/-- A double is the quotient that is worked with. -/
theorem quotient_spec (m : Nat) (q : Int) :
    0 < (quotient m q).2 ∧ ((quotient m q).1 : ℚ) / (quotient m q).2 = m * 2 ^ q := by
  have htwo : ((2 : Nat) : ℚ) = 2 := Nat.cast_ofNat
  unfold quotient
  split_ifs with hq
  · refine ⟨one_pos, ?_⟩
    rw [← htwo, zpow_of_nonneg hq, Nat.cast_one, div_one, Nat.cast_mul]
  · refine ⟨by positivity, ?_⟩
    rw [← htwo, zpow_of_nonpos (by omega), div_eq_mul_inv]

/-- So is the quotient scaled by a power of ten. -/
theorem scaled_spec (num : Nat) {den : Nat} (hden : 0 < den) (p : Int) :
    0 < (scaled num den p).2
      ∧ ((scaled num den p).1 : ℚ) / (scaled num den p).2 = (num : ℚ) / den / 10 ^ p := by
  have hten : ((10 : Nat) : ℚ) = 10 := Nat.cast_ofNat
  unfold scaled
  split_ifs with hp
  · refine ⟨by positivity, ?_⟩
    rw [← hten, div_zpow_of_nonneg hp]
  · refine ⟨hden, ?_⟩
    rw [← hten, div_zpow_of_nonpos (by omega)]

/-- Trailing zeros can be left out. -/
theorem Digits.value_trim (n : Nat) (d : Digits) : (d.trim n).value = d.value := by
  induction n generalizing d with
  | zero => rfl
  | succ n ih =>
    unfold Digits.trim
    split_ifs with h
    · rw [ih]
      have hdigits : d.digits = d.digits / 10 * 10 := by omega
      unfold Digits.value
      dsimp only
      rw [zpow_add_one₀ (by norm_num)]
      conv_rhs => rw [hdigits]
      push_cast
      ring
    · rfl

/-! ## Digits that were tested -/

section

variable {b num den : Nat} (hden : 0 < den)
include hden

/-- Products are compared where the definitions avoid fractions. -/
theorem mul_le_iff_le_div : b * den ≤ num ↔ (b : ℚ) ≤ (num : ℚ) / den := by
  rw [le_div_iff₀ (Nat.cast_pos.mpr hden), ← Nat.cast_mul, Nat.cast_le]

theorem le_mul_iff_div_le : num ≤ b * den ↔ (num : ℚ) / den ≤ b := by
  rw [div_le_iff₀ (Nat.cast_pos.mpr hden), ← Nat.cast_mul, Nat.cast_le]

theorem mul_lt_iff_lt_div : b * den < num ↔ (b : ℚ) < (num : ℚ) / den := by
  rw [← not_le, le_mul_iff_div_le hden, not_le]

theorem lt_mul_iff_div_lt : num < b * den ↔ (num : ℚ) / den < b := by
  rw [← not_le, mul_le_iff_le_div hden, not_le]

end

/-- What is compared with the ends of the range, in quarters of a last place. -/
theorem readsBack_quotient (q : Int) (d : Nat) (p : Int) :
    let c := quotient 1 (q - 2)
    let x := if 0 ≤ p then (d * 10 ^ p.toNat * c.2, c.1) else (d * c.2, 10 ^ (-p).toNat * c.1)
    0 < x.2 ∧ (x.1 : ℚ) / x.2 = 4 * ((d : ℚ) * 10 ^ p / 2 ^ q) := by
  have hten : ((10 : Nat) : ℚ) = 10 := Nat.cast_ofNat
  obtain ⟨hpos, hspec⟩ := quotient_spec 1 (q - 2)
  intro c x
  have hunit : (c.1 : ℚ) / c.2 = 2 ^ q / 4 := by
    rw [hspec, zpow_sub₀ two_ne_zero]
    norm_num
  have hdown : (0 : ℚ) < c.2 := Nat.cast_pos.mpr hpos
  have hup : (0 : ℚ) < c.1 := by
    have hratio : (0 : ℚ) < (c.1 : ℚ) / c.2 := by
      rw [hunit]
      positivity
    exact (div_pos_iff_of_pos_right hdown).mp hratio
  have hvalue : (d : ℚ) * 10 ^ p / (c.1 / c.2) = 4 * ((d : ℚ) * 10 ^ p / 2 ^ q) := by
    rw [hunit]
    field_simp
  rw [← hvalue, ← hten]
  by_cases hp : 0 ≤ p
  · have hx : x = (d * 10 ^ p.toNat * c.2, c.1) := if_pos hp
    rw [hx, zpow_of_nonneg hp]
    refine ⟨Nat.cast_pos.mp hup, ?_⟩
    push_cast
    field_simp
  · have hx : x = (d * c.2, 10 ^ (-p).toNat * c.1) := if_neg hp
    rw [hx, zpow_of_nonpos (by omega)]
    refine ⟨Nat.mul_pos (by positivity) (Nat.cast_pos.mp hup), ?_⟩
    push_cast
    field_simp

/-- The test tells whether the double is the nearest to the number. -/
theorem readsBack_iff (hm : 0 < m) {d : Nat} {p : Int} :
    readsBack m q d p = true ↔ RoundsTo m q ((d : ℚ) * 10 ^ p) := by
  have hm' : (1 : ℚ) ≤ m := Nat.one_le_cast.mpr hm
  obtain ⟨hpos, hx⟩ := readsBack_quotient q d p
  unfold readsBack
  dsimp only at hpos hx ⊢
  generalize (if 0 ≤ p then (d * 10 ^ p.toNat * (quotient 1 (q - 2)).2, (quotient 1 (q - 2)).1)
    else (d * (quotient 1 (q - 2)).2, 10 ^ (-p).toNat * (quotient 1 (q - 2)).1)) = x at hpos hx ⊢
  have hlow : ((if m = 2 ^ 52 ∧ leastExponent < q then 4 * m - 1 else 4 * m - 2 : Nat) : ℚ)
      = 4 * (m - reachBelow m q) := by
    unfold reachBelow
    split_ifs
    · rw [Nat.cast_sub (by omega)]
      push_cast
      ring
    · rw [Nat.cast_sub (by omega)]
      push_cast
      ring
  generalize (if m = 2 ^ 52 ∧ leastExponent < q then 4 * m - 1 else 4 * m - 2 : Nat) = low
    at hlow ⊢
  have hhigh : ((4 * m + 2 : Nat) : ℚ) = 4 * (m + 1 / 2) := by
    push_cast
    ring
  split_ifs with heven
  · rw [decide_eq_true_iff, mul_le_iff_le_div hpos, le_mul_iff_div_le hpos, hx, hlow, hhigh]
    constructor
    · intro h
      exact ⟨by linarith, by linarith, fun hodd => by omega⟩
    · intro h
      have hlow' := h.low
      have hhigh' := h.high
      exact ⟨by linarith, by linarith⟩
  · rw [decide_eq_true_iff, mul_lt_iff_lt_div hpos, lt_mul_iff_div_lt hpos, hx, hlow, hhigh]
    constructor
    · intro h
      exact ⟨by linarith, by linarith, fun _ => ⟨by linarith, by linarith⟩⟩
    · intro h
      obtain ⟨hlow', hhigh'⟩ := h.odd (by omega)
      exact ⟨by linarith, by linarith⟩

/-! ## Seventeen digits -/

/-- A number written with seventeen digits is off by less than half the way to the next double on
either side. -/
theorem roundsTo_of_seventeen (hc : Canonical m q) {d : Nat} {p : Int}
    (hp : (10 : ℚ) ^ (p + 16) ≤ m * 2 ^ q) (hd : |(d : ℚ) - m * 2 ^ q / 10 ^ p| ≤ 1 / 2) :
    RoundsTo m q ((d : ℚ) * 10 ^ p) := by
  have hten := ten_zpow_pos p
  have htwo := two_zpow_pos q
  have hbound : (m : ℚ) + 1 ≤ 2 ^ 53 := by exact_mod_cast hc.bound
  obtain ⟨unit, hunit⟩ : ∃ unit : ℚ, unit = 10 ^ p / 2 ^ q := ⟨_, rfl⟩
  -- One unit of the last digit, in units of the last place of the double.
  have hsmall : unit * 10 ^ 16 ≤ m := by
    rw [zpow_add₀ (by norm_num), zpow_ofNat] at hp
    rw [hunit, div_mul_eq_mul_div, div_le_iff₀ htwo]
    exact hp
  have hoff : |(d : ℚ) * 10 ^ p / 2 ^ q - m| ≤ unit / 2 := by
    have hscale : (d : ℚ) * 10 ^ p / 2 ^ q - m = (d - m * 2 ^ q / 10 ^ p) * unit := by
      rw [hunit]
      field_simp
    have hpos : 0 < unit := hunit ▸ div_pos hten htwo
    rw [hscale, abs_mul, abs_of_pos hpos]
    linarith [mul_le_mul_of_nonneg_right hd hpos.le]
  obtain ⟨hlow, hhigh⟩ := abs_le.mp hoff
  have hreach : unit / 2 < reachBelow m q := by
    unfold reachBelow
    split_ifs with hpower
    · rw [hpower.1] at hsmall
      norm_num at hsmall
      linarith
    · norm_num at hbound hsmall
      linarith
  have hhalf := reachBelow_le m q
  exact ⟨by linarith, by linarith, fun _ => ⟨by linarith, by linarith⟩⟩

/-- The number of seventeen digits that is nearest to a double rounds back to it. -/
theorem roundsTo_of_grid (hc : Canonical m q) (hm : 0 < m) :
    let c := quotient m q
    let p := decimalPoint c.1 c.2 - 17
    RoundsTo m q ((roundEven (scaled c.1 c.2 p).1 (scaled c.1 c.2 p).2 : ℚ) * 10 ^ p) := by
  obtain ⟨hden, hvalue⟩ := quotient_spec m q
  intro c p
  have hm' : (0 : ℚ) < m := Nat.cast_pos.mpr hm
  have hnum : 0 < c.1 := by
    have hratio : (0 : ℚ) < (c.1 : ℚ) / c.2 := by
      rw [hvalue]
      exact mul_pos hm' (two_zpow_pos q)
    exact Nat.cast_pos.mp ((div_pos_iff_of_pos_right (Nat.cast_pos.mpr hden)).mp hratio)
  obtain ⟨hscaled, hgrid⟩ := scaled_spec c.1 hden p
  have hplace : (10 : ℚ) ^ (p + 16) ≤ m * 2 ^ q := by
    have hpoint := pow_decimalPoint_le hnum hden
    have hindex : p + 16 = decimalPoint c.1 c.2 - 1 := by omega
    rw [hindex, ← hvalue]
    exact hpoint
  refine roundsTo_of_seventeen hc hplace ?_
  rw [← hvalue, ← hgrid]
  exact abs_roundEven_sub_le _ hscaled

/-! ## The shortest digits -/

/-- What is found on a grid rounds to the double, for that was tested. -/
theorem roundsTo_of_onGrid (hm : 0 < m) {n : Nat} {d : Digits} (h : onGrid m q n = some d) :
    RoundsTo m q d.value := by
  unfold onGrid at h
  dsimp only at h
  split at h
  next hread =>
    cases h
    exact (readsBack_iff hm).mp hread
  next =>
    obtain ⟨hread, hother⟩ := Option.ite_none_right_eq_some.mp h
    cases hother
    exact (readsBack_iff hm).mp hread

/-- So does what the search ends with, on whichever grid it does. -/
theorem roundsTo_shortestFrom (hc : Canonical m q) (hm : 0 < m) {n fuel : Nat}
    (h : n + fuel = 17) : RoundsTo m q (shortestFrom m q n fuel).value := by
  induction fuel generalizing n with
  | zero =>
    obtain rfl : n = 17 := h
    exact roundsTo_of_grid hc hm
  | succ fuel ih =>
    unfold shortestFrom
    cases hgrid : onGrid m q n with
    | some d => exact roundsTo_of_onGrid hm hgrid
    | none => exact ih (by omega)

/-- **The shortest digits of a double stand for a number that it is the nearest double to.** -/
theorem roundsTo_shortest (hc : Canonical m q) (hm : 0 < m) :
    RoundsTo m q (shortest m q).value := by
  unfold shortest
  rw [Digits.value_trim]
  exact roundsTo_shortestFrom hc hm rfl

end PoissonFactor.Decimal
