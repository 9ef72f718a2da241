import PoissonFactor.Proofs.Decimal.Packed

/-!
# Arithmetic gives the nearest double

The product, the quotient and the sum of two doubles are the doubles that are nearest to those of
the numbers they are, as long as these are of moderate size (`Decimal.InRange`):

> `Decimal.IsNumber.mul_eq`, `Decimal.IsNumber.div_eq`, `Decimal.IsNumber.add_eq`.

Each of them is carried out on whole mantissas and rounded once, so what has to be shown is that
the mantissa there is to round has all its places and stands for the number
(`Decimal.eq_nearest_of_packed`). A whole number that has a double is left as it is
(`Decimal.Exact.isNumber`), and with it no rounding takes place at all.
-/

namespace PoissonFactor.Decimal

open Float.Model (Format totalExponent)
open Float.Model.UnpackedFloat

/-- A double is `± v`, and its mantissa has all its places. -/
structure IsNumber (x : Float) (negative : Bool) (v : ℚ) : Prop where
  parts : ∃ m q, Canonical m q ∧ 2 ^ 52 ≤ m ∧ x = ofPattern negative (patternOf m q)
    ∧ v = m * 2 ^ q

/-- A product is that of the unpacked doubles, packed again. -/
theorem toBits_mul (x y : Float) :
    (x * y).toBits = packed (mul Format.binary64 (unpacked x) (unpacked y)) := rfl

theorem toBits_div (x y : Float) :
    (x / y).toBits = packed (div Format.binary64 (unpacked x) (unpacked y)) := rfl

theorem toBits_add (x y : Float) :
    (x + y).toBits = packed (add Format.binary64 (unpacked x) (unpacked y)) := rfl

/-- A positive factor leaves the sign as it is. -/
theorem signOf_mul (negative : Bool) : signOf negative * signOf false = signOf negative := by
  cases negative
  all_goals rfl

theorem signOf_div (negative : Bool) : signOf negative / signOf false = signOf negative := by
  cases negative
  all_goals rfl

section

variable {x y : Float} {negative : Bool} {v w : ℚ} {num den : Nat}

/-- What is packed once a number in range was rounded. -/
theorem eq_nearest_of_packed (hden : 0 < den) (hrange : InRange ((num : ℚ) / den)) {M : Nat}
    {e : Int} {accuracy : Accuracy} (hM : 2 ^ 52 ≤ M)
    (hv : Stands (.ofMantissaAndAccuracy M accuracy) ((num : ℚ) / den / 2 ^ e))
    (h : x.toBits = packed (roundWithAccuracy Format.binary64 (signOf negative) M e accuracy)) :
    x = nearest negative num den := by
  obtain ⟨m, q, hc, hnormal, hround⟩ := hrange.exists_roundsTo
  rw [roundWithAccuracy_eq hc hnormal hround hM hv] at h
  rw [nearest_eq hc (by omega) hden hround]
  exact eq_ofPattern_of_packed hc hnormal h

/-- A product of finite doubles is exact before it is rounded. -/
theorem mul_finite (s s' : Sign) {m m' : Nat} (q q' : Int) (hm : 0 < m) (hm' : 0 < m') :
    mul Format.binary64 (.finite s m q hm) (.finite s' m' q' hm')
      = roundWithAccuracy Format.binary64 (s * s') (m * m') (q + q') .exact := rfl

/-- **A product is rounded to the nearest double.** -/
theorem IsNumber.mul_eq (hx : IsNumber x negative v) (hy : IsNumber y false w) (hden : 0 < den)
    (hvalue : v * w = (num : ℚ) / den) (hrange : InRange ((num : ℚ) / den)) :
    x * y = nearest negative num den := by
  obtain ⟨m, q, hc, hnormal, rfl, rfl⟩ := hx.parts
  obtain ⟨m', q', hc', hnormal', rfl, rfl⟩ := hy.parts
  have hbits := toBits_mul (ofPattern negative (patternOf m q)) (ofPattern false (patternOf m' q'))
  rw [unpacked_ofPattern hc hnormal, unpacked_ofPattern hc' hnormal', mul_finite, signOf_mul]
    at hbits
  refine eq_nearest_of_packed hden hrange ?_ ?_ hbits
  · exact hnormal.trans (Nat.le_mul_of_pos_right m (by omega))
  · have hexact : (num : ℚ) / den / 2 ^ (q + q') = ((m * m' : Nat) : ℚ) := by
      have hpow := (two_zpow_pos q).ne'
      have hpow' := (two_zpow_pos q').ne'
      rw [← hvalue, zpow_add₀ two_ne_zero, Nat.cast_mul]
      field_simp
    rw [hexact]
    exact stands_exact _

/-- A quotient is cut off with a note of what is missing before it is rounded. -/
theorem div_finite (s s' : Sign) {m m' : Nat} (q q' : Int) (hm : 0 < m) (hm' : 0 < m') :
    div Format.binary64 (.finite s m q hm) (.finite s' m' q' hm')
      = roundWithAccuracy Format.binary64 (s / s') (divCore Format.binary64 m q m' q').1
          (divCore Format.binary64 m q m' q').2.1 (divCore Format.binary64 m q m' q').2.2 := rfl

/-- A division is carried on to fifty-three places more than the mantissas have. -/
theorem divCore_eq {m m' : Nat} {q q' : Int} (hm : m.log2 = 52) (hm' : m'.log2 = 52)
    (h : -1021 ≤ q - q') : divCore Format.binary64 m q m' q'
      = (m * 2 ^ 53 / m', q - q' - 53, accuracyOfFraction (m * 2 ^ 53 % m') m') := by
  have htarget : min (q - q')
      (Format.binary64.targetExponent (totalExponent m q - totalExponent m' q')) = q - q' - 53 := by
    show min (q - q') (max ((m.log2 : Int) + 1 + q - ((m'.log2 : Int) + 1 + q') - 53) (-1074)) = _
    rw [hm, hm']
    omega
  have hshift : (q - q' - (q - q' - 53)).toNat = 53 := by
    omega
  unfold divCore
  dsimp only
  rw [htarget, hshift, Nat.shiftLeft_eq]

/-- **A quotient is rounded to the nearest double.** -/
theorem IsNumber.div_eq (hx : IsNumber x negative v) (hy : IsNumber y false w) (hden : 0 < den)
    (hvalue : v / w = (num : ℚ) / den) (hrange : InRange ((num : ℚ) / den)) :
    x / y = nearest negative num den := by
  obtain ⟨m, q, hc, hnormal, rfl, rfl⟩ := hx.parts
  obtain ⟨m', q', hc', hnormal', rfl, rfl⟩ := hy.parts
  have hm' : (0 : ℚ) < m' := Nat.cast_pos.mpr (by omega)
  have hquotient : (m : ℚ) * 2 ^ q / (m' * 2 ^ q') = (m : ℚ) / m' * 2 ^ (q - q') := by
    rw [zpow_sub₀ two_ne_zero, mul_div_mul_comm]
  -- A quotient in range leaves room for all the places.
  have hplaces : -1021 ≤ q - q' := by
    have hratio : (m : ℚ) / m' < 2 ^ (1 : Int) := by
      have hbound : m < 2 * m' := by
        have hm := hc.bound
        omega
      rw [zpow_one, div_lt_iff₀ hm']
      exact_mod_cast hbound
    have hlow : (2 : ℚ) ^ (-200 : Int) < 2 ^ (1 + (q - q')) := by
      calc (2 : ℚ) ^ (-200 : Int) ≤ (num : ℚ) / den := hrange.low
        _ = (m : ℚ) / m' * 2 ^ (q - q') := by rw [← hvalue, hquotient]
        _ < 2 ^ (1 : Int) * 2 ^ (q - q') := mul_lt_mul_of_pos_right hratio (two_zpow_pos _)
        _ = 2 ^ (1 + (q - q')) := (zpow_add₀ two_ne_zero _ _).symm
    have hexponent := zpow_lt_two_iff.mp hlow
    omega
  have hbits := toBits_div (ofPattern negative (patternOf m q)) (ofPattern false (patternOf m' q'))
  rw [unpacked_ofPattern hc hnormal, unpacked_ofPattern hc' hnormal', div_finite, signOf_div,
    divCore_eq (log2_eq_of_normal hnormal hc.bound) (log2_eq_of_normal hnormal' hc'.bound) hplaces]
    at hbits
  refine eq_nearest_of_packed hden hrange ?_ ?_ hbits
  · have hbound := hc'.bound
    refine (Nat.le_div_iff_mul_le (by omega)).mpr ?_
    calc 2 ^ 52 * m' ≤ 2 ^ 52 * 2 ^ 53 := Nat.mul_le_mul_left _ hbound.le
      _ ≤ m * 2 ^ 53 := Nat.mul_le_mul_right _ hnormal
  · have hsplit : (num : ℚ) / den / 2 ^ (q - q' - 53)
        = ((m * 2 ^ 53 / m' : Nat) : ℚ) + ((m * 2 ^ 53 % m' : Nat) : ℚ) / m' := by
      have hdivmod : ((m * 2 ^ 53 / m' : Nat) : ℚ) * m' + ((m * 2 ^ 53 % m' : Nat) : ℚ)
          = m * 2 ^ 53 := by
        exact_mod_cast Nat.div_add_mod' (m * 2 ^ 53) m'
      have hpow := (two_zpow_pos (q - q')).ne'
      have htwo : (2 : ℚ) ^ (53 : Int) = 2 ^ 53 := zpow_natCast 2 53
      rw [← hvalue, hquotient, zpow_sub₀ two_ne_zero (q - q') 53, htwo]
      field_simp
      rw [← hdivmod]
      ring
    rw [hsplit]
    exact stands_fraction _ (Nat.mod_lt _ (by omega))

/-- A sum is exact before it is rounded. -/
theorem add_finite (s s' : Sign) {m m' : Nat} (q q' : Int) (hm : 0 < m) (hm' : 0 < m') :
    add Format.binary64 (.finite s m q hm) (.finite s' m' q' hm')
      = Float.Model.UnpackedFloat.normalize Format.binary64
          (s.apply (m <<< (q - min q q').toNat : Nat)
            + s'.apply (m' <<< (q' - min q q').toNat : Nat))
          (min q q') .positive := rfl

/-- A positive number is normalised by making its mantissa large enough to be rounded. -/
theorem normalize_natCast {n : Nat} (hn : 0 < n) (e : Int) (s : Sign) :
    ∃ k : Nat, Float.Model.UnpackedFloat.normalize Format.binary64 (n : Int) e s
      = roundWithAccuracy Format.binary64 .positive (n * 2 ^ k) (e - k) .exact := by
  have hcompare : compare (n : Int) 0 = .gt := compare_gt_iff_gt.mpr (by omega)
  refine ⟨(e - Format.binary64.targetExponent (totalExponent n e)).toNat, ?_⟩
  unfold Float.Model.UnpackedFloat.normalize
  rw [hcompare, ← Nat.shiftLeft_eq]
  rfl

/-- **A sum of positive numbers is rounded to the nearest double.** -/
theorem IsNumber.add_eq (hx : IsNumber x false v) (hy : IsNumber y false w) (hden : 0 < den)
    (hvalue : v + w = (num : ℚ) / den) (hrange : InRange ((num : ℚ) / den)) :
    x + y = nearest false num den := by
  obtain ⟨m, q, hc, hnormal, rfl, rfl⟩ := hx.parts
  obtain ⟨m', q', hc', hnormal', rfl, rfl⟩ := hy.parts
  have hbits := toBits_add (ofPattern false (patternOf m q)) (ofPattern false (patternOf m' q'))
  rw [unpacked_ofPattern hc hnormal, unpacked_ofPattern hc' hnormal', add_finite] at hbits
  obtain ⟨i, hi⟩ : ∃ i : Nat, q = min q q' + i := ⟨(q - min q q').toNat, by omega⟩
  obtain ⟨j, hj⟩ : ∃ j : Nat, q' = min q q' + j := ⟨(q' - min q q').toNat, by omega⟩
  generalize min q q' = e at hi hj hbits
  rw [show (q - e).toNat = i by omega, show (q' - e).toNat = j by omega, Nat.shiftLeft_eq,
    Nat.shiftLeft_eq] at hbits
  have hsum : (m : ℚ) * 2 ^ q + m' * 2 ^ q' = ((m * 2 ^ i + m' * 2 ^ j : Nat) : ℚ) * 2 ^ e := by
    rw [hi, hj, zpow_add₀ two_ne_zero, zpow_add₀ two_ne_zero, zpow_natCast, zpow_natCast]
    push_cast
    ring
  have hlarge : 2 ^ 52 ≤ m * 2 ^ i + m' * 2 ^ j :=
    hnormal.trans ((Nat.le_mul_of_pos_right m (by positivity)).trans (Nat.le_add_right _ _))
  have happly : (signOf false).apply ((m * 2 ^ i : Nat) : Int)
      + (signOf false).apply ((m' * 2 ^ j : Nat) : Int)
      = ((m * 2 ^ i + m' * 2 ^ j : Nat) : Int) := rfl
  obtain ⟨k, hk⟩ := normalize_natCast (n := m * 2 ^ i + m' * 2 ^ j) (by omega) e .positive
  rw [happly, hk] at hbits
  refine eq_nearest_of_packed hden hrange ?_ ?_ hbits
  · exact hlarge.trans (Nat.le_mul_of_pos_right _ (by positivity))
  · have hexact : (num : ℚ) / den / 2 ^ (e - k)
        = (((m * 2 ^ i + m' * 2 ^ j) * 2 ^ k : Nat) : ℚ) := by
      have hpow := (two_zpow_pos e).ne'
      rw [← hvalue, hsum, zpow_sub₀ two_ne_zero, zpow_natCast]
      push_cast
      field_simp
    rw [hexact]
    exact stands_exact _

end

/-! ## Zero -/

/-- Zero is its own nearest double. -/
theorem nearest_zero (negative : Bool) (den : Nat) :
    nearest negative 0 den = ofPattern negative 0 := by
  unfold nearest nearestPattern
  rw [if_pos rfl]

section

variable {x : Float} {v : ℚ}

/-- Zero times a positive number keeps its sign. -/
theorem IsNumber.zero_mul (hx : IsNumber x false v) (negative : Bool) :
    ofPattern negative 0 * x = ofPattern negative 0 := by
  obtain ⟨m, q, hc, hnormal, rfl, -⟩ := hx.parts
  have hm : 0 < m := by omega
  have hzero : mul Format.binary64 (.zero (signOf negative)) (.finite (signOf false) m q hm)
      = .zero (signOf negative * signOf false) := rfl
  apply eq_zero_of_packed
  rw [toBits_mul, unpacked_zero, unpacked_ofPattern hc hnormal, hzero, signOf_mul]

/-- So does zero divided by one. -/
theorem IsNumber.zero_div (hx : IsNumber x false v) (negative : Bool) :
    ofPattern negative 0 / x = ofPattern negative 0 := by
  obtain ⟨m, q, hc, hnormal, rfl, -⟩ := hx.parts
  have hm : 0 < m := by omega
  have hzero : div Format.binary64 (.zero (signOf negative)) (.finite (signOf false) m q hm)
      = .zero (signOf negative / signOf false) := rfl
  apply eq_zero_of_packed
  rw [toBits_div, unpacked_zero, unpacked_ofPattern hc hnormal, hzero, signOf_div]

/-- Zero adds nothing. -/
theorem IsNumber.add_zero (hx : IsNumber x false v) : x + ofPattern false 0 = x := by
  obtain ⟨m, q, hc, hnormal, rfl, -⟩ := hx.parts
  apply eq_ofPattern_of_packed hc hnormal
  rw [toBits_add, unpacked_zero, unpacked_ofPattern hc hnormal]
  rfl

end

/-! ## Exact numbers -/

/-- A whole number that is a double: doubled a few times from one of at most fifty-three binary
places. -/
def Exact (n : Nat) : Prop :=
  ∃ a k, a < 2 ^ 53 ∧ k ≤ 64 ∧ n = a * 2 ^ k

/-- Integers below the fifty-third power of two are exact. -/
theorem exact_of_lt {n : Nat} (h : n < 2 ^ 53) : Exact n :=
  ⟨n, 0, h, Nat.zero_le _, (Nat.mul_one n).symm⟩

/-- So are the powers of ten up to the twenty-second, whose odd part is small. -/
theorem exact_pow_ten {k : Nat} (h : k ≤ 22) : Exact (10 ^ k) := by
  refine ⟨5 ^ k, k, ?_, by omega, ?_⟩
  · calc 5 ^ k ≤ 5 ^ 22 := Nat.pow_le_pow_right (by decide) h
      _ < 2 ^ 53 := by decide
  · rw [← Nat.mul_pow]

/-- A whole number that is a double is the nearest double to itself. -/
theorem Exact.isNumber {n : Nat} (h : Exact n) (hn : 0 < n) (negative : Bool) :
    IsNumber (nearest negative n 1) negative n := by
  obtain ⟨a, k, ha, hk, rfl⟩ := h
  have hpos : 0 < a := Nat.pos_of_mul_pos_right hn
  have hlog : a.log2 ≤ 52 := by
    have hlt : a.log2 < 53 := (Nat.log2_lt hpos.ne').mpr ha
    omega
  obtain ⟨i, hi⟩ : ∃ i, a.log2 + i = 52 := ⟨52 - a.log2, by omega⟩
  have hlow : 2 ^ 52 ≤ a * 2 ^ i := by
    rw [← hi, Nat.pow_add]
    exact Nat.mul_le_mul_right _ (Nat.log2_self_le hpos.ne')
  have hhigh : a * 2 ^ i < 2 ^ 53 := by
    rw [show 53 = a.log2 + 1 + i by omega, Nat.pow_add]
    exact Nat.mul_lt_mul_of_pos_right Nat.lt_log2_self (by positivity)
  have hc : Canonical (a * 2 ^ i) ((k : Int) - i) := by
    refine ⟨hhigh, ?_, by omega, Or.inl hlow⟩
    unfold leastExponent
    omega
  have hvalue : ((a * 2 ^ k : Nat) : ℚ) = ((a * 2 ^ i : Nat) : ℚ) * 2 ^ ((k : Int) - i) := by
    rw [zpow_sub₀ two_ne_zero, zpow_natCast, zpow_natCast]
    push_cast
    field_simp
  refine ⟨a * 2 ^ i, (k : Int) - i, hc, hlow, ?_, hvalue⟩
  refine nearest_eq hc (by omega) one_pos ?_ negative
  rw [Nat.cast_one, div_one, hvalue]
  exact roundsTo_self _ _

/-- With a minus sign in front, it is the opposite number. -/
theorem Exact.signed {n : Nat} (h : Exact n) (negative : Bool) :
    (if negative then -nearest false n 1 else nearest false n 1) = nearest negative n 1 := by
  cases negative with
  | false => rfl
  | true =>
    rcases Nat.eq_zero_or_pos n with rfl | hn
    · rw [nearest_zero, nearest_zero]
      exact neg_ofPattern (by decide)
    · obtain ⟨m, q, hc, hnormal, hx, hv⟩ := (h.isNumber hn false).parts
      have hround : RoundsTo m q ((n : ℚ) / (1 : Nat)) := by
        rw [Nat.cast_one, div_one, hv]
        exact roundsTo_self m q
      rw [nearest_eq hc (by omega) one_pos hround, nearest_eq hc (by omega) one_pos hround]
      exact neg_ofPattern hc.patternOf_lt

/-- Quotients of numbers of moderate size are in range. -/
theorem inRange_div {num den : Nat} (hnum : 0 < num) (hden : 0 < den) (hhigh : num < 10 ^ 20)
    (hlow : den ≤ 10 ^ 40) : InRange ((num : ℚ) / den) := by
  have hden' : (1 : ℚ) ≤ den := Nat.one_le_cast.mpr hden
  constructor
  · have hnum' : (1 : ℚ) ≤ num := Nat.one_le_cast.mpr hnum
    have hlow' : (den : ℚ) ≤ 10 ^ 40 := by exact_mod_cast hlow
    calc (2 : ℚ) ^ (-200 : Int) ≤ 1 / 10 ^ 40 := by norm_num
      _ ≤ 1 / den := one_div_le_one_div_of_le (by linarith) hlow'
      _ ≤ num / den := div_le_div_of_nonneg_right hnum' (by linarith)
  · have hhigh' : (num : ℚ) < 10 ^ 20 := by exact_mod_cast hhigh
    calc (num : ℚ) / den ≤ num := div_le_self (Nat.cast_nonneg num) hden'
      _ < 10 ^ 20 := hhigh'
      _ ≤ 2 ^ (200 : Int) := by norm_num

end PoissonFactor.Decimal
