import Mathlib.Algebra.Order.Field.Power
import Mathlib.Data.Rat.Cast.Order
import Mathlib.Tactic.FieldSimp
import Mathlib.Tactic.Linarith
import Mathlib.Tactic.NormNum
import Mathlib.Tactic.Positivity
import Mathlib.Tactic.Ring
import PoissonFactor.Proofs.Decimal.Bits

/-!
# Rounding to the nearest double

The numbers that a double `m · 2^q` is nearest to reach half way to its neighbours, and to the ends
themselves when `m` is even (`Decimal.RoundsTo`). Below a power of two the neighbour is twice as
near. Reading digits finds the double whose numbers they are among:

> `Decimal.ofDecimal_eq`: if `digits · 10^exponent` rounds to `m · 2^q`, the double read from it
> has that pattern.

The exponent of the result is taken from the number that is rounded. It can be one less than that
of the result, when the number lies just below a power of two, and then the carry makes up for it
(`Decimal.nearestPattern_eq`).
-/

namespace PoissonFactor.Decimal

/-! ## Powers -/

variable {b num den : Nat} {e : Int}

/-- Powers with integer exponents are those with natural ones, or one divided by them. -/
theorem zpow_of_nonneg (h : 0 ≤ e) : (b : ℚ) ^ e = ((b ^ e.toNat : Nat) : ℚ) := by
  rw [Nat.cast_pow, ← zpow_natCast, Int.toNat_of_nonneg h]

theorem zpow_of_nonpos (h : e ≤ 0) : (b : ℚ) ^ e = (((b ^ (-e).toNat : Nat) : ℚ))⁻¹ := by
  rw [← zpow_of_nonneg (show 0 ≤ -e by omega), zpow_neg, inv_inv]

theorem div_zpow_of_nonneg (h : 0 ≤ e) :
    (num : ℚ) / den / (b : ℚ) ^ e = (num : ℚ) / ((den * b ^ e.toNat : Nat) : ℚ) := by
  rw [zpow_of_nonneg h, div_div, Nat.cast_mul]

theorem div_zpow_of_nonpos (h : e ≤ 0) :
    (num : ℚ) / den / (b : ℚ) ^ e = ((num * b ^ (-e).toNat : Nat) : ℚ) / den := by
  rw [zpow_of_nonpos h, div_inv_eq_mul, Nat.cast_mul, div_mul_eq_mul_div]

theorem two_zpow_pos (e : Int) : (0 : ℚ) < 2 ^ e :=
  zpow_pos (by norm_num) e

/-! ## Rounding to a whole number -/

/-- Rounding gives the integer that is within a half, and of two the even one. -/
theorem roundEven_of_le {n d m : Nat} (hd : 0 < d) (hlow : 2 * (m * d) ≤ 2 * n + d)
    (hhigh : 2 * n ≤ 2 * (m * d) + d)
    (hodd : m % 2 = 1 → 2 * (m * d) < 2 * n + d ∧ 2 * n < 2 * (m * d) + d) :
    roundEven n d = m := by
  have hn : n / d * d + n % d = n := Nat.div_add_mod' n d
  have hr : n % d < d := Nat.mod_lt n hd
  have hnear : m = n / d ∨ m = n / d + 1 := by
    have hle : m ≤ n / d + 1 := by
      by_contra hfar
      have hmul : (n / d + 2) * d ≤ m * d := Nat.mul_le_mul_right d (by omega)
      rw [Nat.add_mul] at hmul
      omega
    have hge : n / d ≤ m := by
      by_contra hfar
      have hmul : (m + 1) * d ≤ n / d * d := Nat.mul_le_mul_right d (by omega)
      rw [Nat.add_mul] at hmul
      omega
    omega
  unfold roundEven
  dsimp only
  rcases hnear with rfl | rfl
  · split_ifs with hbelow habove
    · rfl
    · omega
    · have := hodd
      omega
  · rw [Nat.add_mul] at hlow hhigh hodd
    split_ifs with hbelow habove
    · omega
    · rfl
    · omega

/-- A whole number that is nearest to `w`; where two are as near it is the even one. -/
structure RoundsEven (n : Nat) (w : ℚ) : Prop where
  low : (n : ℚ) - 1 / 2 ≤ w
  high : w ≤ n + 1 / 2
  odd : n % 2 = 1 → (n : ℚ) - 1 / 2 < w ∧ w < n + 1 / 2

/-- There is only one. -/
theorem RoundsEven.unique {n n' : Nat} {w : ℚ} (h : RoundsEven n w) (h' : RoundsEven n' w) :
    n = n' := by
  have key : ∀ {a b : Nat}, RoundsEven a w → RoundsEven b w → a ≤ b := by
    intro a b ha hb
    by_contra hlt
    have hnext : (b : ℚ) + 1 ≤ a := by exact_mod_cast (show b + 1 ≤ a by omega)
    have hlow := ha.low
    have hhigh := hb.high
    -- Half way between two neighbours one of them is odd.
    have hhalf : (a : ℚ) = b + 1 := by linarith
    have hhalf' : a = b + 1 := by exact_mod_cast hhalf
    rcases Nat.mod_two_eq_zero_or_one b with heven | hodd
    · have hstrict := (ha.odd (by omega)).1
      linarith
    · have hstrict := (hb.odd hodd).2
      linarith
  exact Nat.le_antisymm (key h h') (key h' h)

/-- A quotient is rounded to the nearest whole number. -/
theorem roundEven_eq {n d m : Nat} (hd : 0 < d) (h : RoundsEven m ((n : ℚ) / d)) :
    roundEven n d = m := by
  have hd' : (0 : ℚ) < d := Nat.cast_pos.mpr hd
  have hlow := h.low
  have hhigh := h.high
  refine roundEven_of_le hd ?_ ?_ fun hodd => ⟨?_, ?_⟩
  · rw [le_div_iff₀ hd'] at hlow
    have : (2 * (m * d) : ℚ) ≤ 2 * n + d := by linarith
    exact_mod_cast this
  · rw [div_le_iff₀ hd'] at hhigh
    have : (2 * n : ℚ) ≤ 2 * (m * d) + d := by linarith
    exact_mod_cast this
  · have hstrict := (h.odd hodd).1
    rw [lt_div_iff₀ hd'] at hstrict
    have : (2 * (m * d) : ℚ) < 2 * n + d := by linarith
    exact_mod_cast this
  · have hstrict := (h.odd hodd).2
    rw [div_lt_iff₀ hd'] at hstrict
    have : (2 * n : ℚ) < 2 * (m * d) + d := by linarith
    exact_mod_cast this

/-- Rounding a quotient gives a nearest whole number. -/
theorem roundsEven_roundEven (n : Nat) {d : Nat} (hd : 0 < d) :
    RoundsEven (roundEven n d) ((n : ℚ) / d) := by
  have hn : n / d * d + n % d = n := Nat.div_add_mod' n d
  have hr : n % d < d := Nat.mod_lt n hd
  have hd' : (0 : ℚ) < d := Nat.cast_pos.mpr hd
  have hbounds : 2 * (roundEven n d * d) ≤ 2 * n + d ∧ 2 * n ≤ 2 * (roundEven n d * d) + d
      ∧ (roundEven n d % 2 = 1 →
        2 * (roundEven n d * d) < 2 * n + d ∧ 2 * n < 2 * (roundEven n d * d) + d) := by
    unfold roundEven
    dsimp only
    split_ifs with hbelow habove
    · omega
    · rw [Nat.add_mul]
      omega
    · rcases Nat.mod_two_eq_zero_or_one (n / d) with h | h
      · rw [h, Nat.add_zero]
        omega
      · rw [h, Nat.add_mul]
        omega
  have hlow : (2 * (roundEven n d * d) : ℚ) ≤ 2 * n + d := by exact_mod_cast hbounds.1
  have hhigh : (2 * n : ℚ) ≤ 2 * (roundEven n d * d) + d := by exact_mod_cast hbounds.2.1
  refine ⟨?_, ?_, fun hodd => ⟨?_, ?_⟩⟩
  · rw [le_div_iff₀ hd']
    linarith
  · rw [div_le_iff₀ hd']
    linarith
  · have hstrict : (2 * (roundEven n d * d) : ℚ) < 2 * n + d := by
      exact_mod_cast (hbounds.2.2 hodd).1
    rw [lt_div_iff₀ hd']
    linarith
  · have hstrict : (2 * n : ℚ) < 2 * (roundEven n d * d) + d := by
      exact_mod_cast (hbounds.2.2 hodd).2
    rw [div_lt_iff₀ hd']
    linarith

/-- Every number that is not negative rounds to some integer. -/
theorem exists_roundsEven {w : ℚ} (hw : 0 ≤ w) : ∃ n, RoundsEven n w := by
  have hquotient : (w.num.toNat : ℚ) / w.den = w := by
    have hnum : ((w.num.toNat : Int) : ℚ) = w.num := by
      rw [Int.toNat_of_nonneg (Rat.num_nonneg.mpr hw)]
    rw [Int.cast_natCast] at hnum
    rw [hnum, Rat.num_div_den]
  exact ⟨_, hquotient ▸ roundsEven_roundEven w.num.toNat w.den_pos⟩

/-- Rounding moves a quotient by a half at most. -/
theorem abs_roundEven_sub_le (n : Nat) {d : Nat} (hd : 0 < d) :
    |(roundEven n d : ℚ) - n / d| ≤ 1 / 2 := by
  have hround := roundsEven_roundEven n hd
  have hlow := hround.low
  have hhigh := hround.high
  rw [abs_le]
  constructor
  · linarith
  · linarith

/-! ## The exponent of a quotient -/

/-- Powers of two are compared with a quotient without fractions. -/
theorem two_zpow_le_div_iff (num : Nat) (hden : 0 < den) (e : Int) :
    (if 0 ≤ e then den * 2 ^ e.toNat ≤ num else den ≤ num * 2 ^ (-e).toNat)
      ↔ (2 : ℚ) ^ e ≤ (num : ℚ) / den := by
  have htwo : ((2 : Nat) : ℚ) = 2 := Nat.cast_ofNat
  rw [← one_le_div (two_zpow_pos e), ← htwo]
  by_cases he : 0 ≤ e
  · have hpos : 0 < den * 2 ^ e.toNat := by positivity
    rw [if_pos he, div_zpow_of_nonneg he, one_le_div (Nat.cast_pos.mpr hpos), Nat.cast_le]
  · rw [if_neg he, div_zpow_of_nonpos (by omega), one_le_div (Nat.cast_pos.mpr hden), Nat.cast_le]

/-- A number is between two powers of two. -/
theorem log2_bounds {n : Nat} (h : 0 < n) :
    (2 : ℚ) ^ (n.log2 : Int) ≤ n ∧ (n : ℚ) < 2 ^ ((n.log2 : Int) + 1) := by
  obtain ⟨hlow, hhigh⟩ := (Nat.log2_eq_iff h.ne').mp rfl
  constructor
  · rw [zpow_natCast]
    exact_mod_cast hlow
  · rw [← Int.natCast_succ, zpow_natCast]
    exact_mod_cast hhigh

/-- The exponents of two numbers say that of their quotient but for one. -/
theorem div_log2_bounds (hnum : 0 < num) (hden : 0 < den) :
    (2 : ℚ) ^ ((num.log2 : Int) - den.log2 - 1) ≤ (num : ℚ) / den
      ∧ (num : ℚ) / den < 2 ^ ((num.log2 : Int) - den.log2 + 1) := by
  have hden' : (0 : ℚ) < den := Nat.cast_pos.mpr hden
  obtain ⟨hlow, hhigh⟩ := log2_bounds hnum
  obtain ⟨hlow', hhigh'⟩ := log2_bounds hden
  constructor
  · calc (2 : ℚ) ^ ((num.log2 : Int) - den.log2 - 1)
        = 2 ^ (num.log2 : Int) / 2 ^ ((den.log2 : Int) + 1) := by
          rw [← zpow_sub₀ two_ne_zero]
          congr 1
          omega
      _ ≤ num / den := by gcongr
  · calc (num : ℚ) / den < 2 ^ ((num.log2 : Int) + 1) / 2 ^ (den.log2 : Int) := by gcongr
      _ = 2 ^ ((num.log2 : Int) - den.log2 + 1) := by
          rw [← zpow_sub₀ two_ne_zero]
          congr 1
          omega

/-- **The exponent of a quotient** is the power of two that it is not below. -/
theorem binaryExponent_spec (hnum : 0 < num) (hden : 0 < den) :
    (2 : ℚ) ^ binaryExponent num den ≤ (num : ℚ) / den
      ∧ (num : ℚ) / den < 2 ^ (binaryExponent num den + 1) := by
  obtain ⟨hlow, hhigh⟩ := div_log2_bounds hnum hden
  have hreached := two_zpow_le_div_iff num hden ((num.log2 : Int) - den.log2)
  unfold binaryExponent
  dsimp only
  by_cases h : (2 : ℚ) ^ ((num.log2 : Int) - den.log2) ≤ (num : ℚ) / den
  · rw [if_pos (hreached.mpr h)]
    exact ⟨h, hhigh⟩
  · rw [if_neg (mt hreached.mp h), sub_add_cancel]
    exact ⟨hlow, not_le.mp h⟩

/-! ## The nearest double -/

/-- How far down the numbers reach that a double is nearest to, in units of its last place. -/
def reachBelow (m : Nat) (q : Int) : ℚ :=
  if m = 2 ^ 52 ∧ leastExponent < q then 1 / 4 else 1 / 2

/-- The double `m · 2^q` is the nearest to a number. -/
structure RoundsTo (m : Nat) (q : Int) (v : ℚ) : Prop where
  low : (m : ℚ) - reachBelow m q ≤ v / 2 ^ q
  high : v / 2 ^ q ≤ m + 1 / 2
  odd : m % 2 = 1 → (m : ℚ) - reachBelow m q < v / 2 ^ q ∧ v / 2 ^ q < m + 1 / 2

variable {m : Nat} {q : Int} {v : ℚ}

/-- Below a power of two doubles are closer together, so less rounds to it. -/
theorem reachBelow_le (m : Nat) (q : Int) : reachBelow m q ≤ 1 / 2 := by
  unfold reachBelow
  split_ifs
  · norm_num
  · exact le_rfl

/-- What rounds to a double is at most half a place below it. -/
theorem RoundsTo.half_le (h : RoundsTo m q v) : (m : ℚ) - 1 / 2 ≤ v / 2 ^ q := by
  have hreach := reachBelow_le m q
  have hlow := h.low
  linarith

/-- What rounds to a positive double is positive. -/
theorem RoundsTo.pos (h : RoundsTo m q v) (hm : 0 < m) : 0 < v := by
  have hm' : (1 : ℚ) ≤ m := Nat.one_le_cast.mpr hm
  have hscaled : 0 < v / 2 ^ q := by
    have hhalf := h.half_le
    linarith
  exact (div_pos_iff_of_pos_right (two_zpow_pos q)).mp hscaled

/-- A quotient of powers, in units of the last place. -/
theorem le_div_zpow_iff (n : Int) : (2 : ℚ) ^ (q + n) ≤ v ↔ 2 ^ n ≤ v / 2 ^ q := by
  rw [le_div_iff₀ (two_zpow_pos q), ← zpow_add₀ two_ne_zero, add_comm]

/-- Powers of two are compared place by place. -/
theorem div_zpow_lt_iff (n : Int) : v < (2 : ℚ) ^ (q + n) ↔ v / 2 ^ q < 2 ^ n := by
  rw [div_lt_iff₀ (two_zpow_pos q), ← zpow_add₀ two_ne_zero, add_comm]

theorem zpow_lt_two_iff {i j : Int} : (2 : ℚ) ^ i < 2 ^ j ↔ i < j :=
  zpow_lt_zpow_iff_right₀ one_lt_two

/-- The last place that a number is rounded at is that of the nearest double, or one lower if the
number lies just below a power of two. -/
theorem place_eq (hc : Canonical m q) (h : RoundsTo m q v) {e : Int} (hlow : (2 : ℚ) ^ e ≤ v)
    (hhigh : v < 2 ^ (e + 1)) :
    max (e - 52) leastExponent = q
      ∨ (max (e - 52) leastExponent = q - 1 ∧ m = 2 ^ 52 ∧ leastExponent < q ∧ v / 2 ^ q < m) := by
  have hbelow : e < q + 53 := by
    have hm : (m : ℚ) + 1 ≤ 2 ^ 53 := by exact_mod_cast hc.bound
    have hv : v < 2 ^ (q + 53) := by
      rw [div_zpow_lt_iff]
      have hreach := h.high
      norm_num at hm ⊢
      linarith
    exact zpow_lt_two_iff.mp (hlow.trans_lt hv)
  have hleast := hc.least
  rcases hc.normal with hnormal | hnormal
  · by_cases hfull : (2 : ℚ) ^ (52 : Int) ≤ v / 2 ^ q
    · have habove : q + 52 < e + 1 := by
        rw [← le_div_zpow_iff] at hfull
        exact zpow_lt_two_iff.mp (hfull.trans_lt hhigh)
      exact Or.inl (by omega)
    · have hunder : e < q + 52 := by
        rw [← le_div_zpow_iff, not_le] at hfull
        exact zpow_lt_two_iff.mp (hlow.trans_lt hfull)
      have hpower : m = 2 ^ 52 := by
        by_contra hne
        have hm : (2 : ℚ) ^ 52 + 1 ≤ m := by exact_mod_cast (show 2 ^ 52 + 1 ≤ m by omega)
        have hreach := h.half_le
        norm_num at hfull
        linarith
      by_cases hq : q = leastExponent
      · exact Or.inl (by omega)
      · have habove : q + 51 < e + 1 := by
          have hv : (2 : ℚ) ^ (q + 51) ≤ v := by
            rw [le_div_zpow_iff]
            have hreach := h.half_le
            rw [hpower] at hreach
            norm_num at hreach ⊢
            linarith
          exact zpow_lt_two_iff.mp (hv.trans_lt hhigh)
        refine Or.inr ⟨by omega, hpower, by omega, ?_⟩
        rw [hpower]
        norm_num at hfull ⊢
        exact hfull
  · exact Or.inl (by omega)

/-- At its own last place the nearest double is the nearest whole number. -/
theorem RoundsTo.roundsEven (h : RoundsTo m q v) : RoundsEven m (v / 2 ^ q) where
  low := h.half_le
  high := h.high
  odd hodd := by
    have hreach := reachBelow_le m q
    obtain ⟨hstrict, hstrict'⟩ := h.odd hodd
    exact ⟨by linarith, hstrict'⟩

/-- At the place below, a number just under a power of two is rounded up to the carry. -/
theorem RoundsTo.roundsEven_carry (h : RoundsTo m q v) (hpower : m = 2 ^ 52)
    (hq : leastExponent < q) (hbelow : v / 2 ^ q < m) :
    RoundsEven (2 ^ 53) (v / 2 ^ (q - 1)) := by
  have hreach : reachBelow m q = 1 / 4 := if_pos ⟨hpower, hq⟩
  have hdouble : v / 2 ^ (q - 1) = 2 * (v / 2 ^ q) := by
    rw [zpow_sub_one₀ two_ne_zero]
    field_simp
  have hlow := h.low
  rw [hreach, hpower] at hlow
  rw [hpower] at hbelow
  rw [hdouble]
  refine ⟨?_, ?_, fun hodd => absurd hodd (by decide)⟩
  · norm_num at hlow ⊢
    linarith
  · norm_num at hbelow ⊢
    linarith

/-- What a number is rounded to at the place that its size gives: the mantissa of the nearest
double, or the carry that stands for it. -/
theorem RoundsTo.rounded (hc : Canonical m q) (h : RoundsTo m q v) {e : Int}
    (hlow : (2 : ℚ) ^ e ≤ v) (hhigh : v < 2 ^ (e + 1)) :
    (max (e - 52) leastExponent = q ∧ RoundsEven m (v / 2 ^ q))
      ∨ (max (e - 52) leastExponent = q - 1 ∧ m = 2 ^ 52
        ∧ RoundsEven (2 ^ 53) (v / 2 ^ (q - 1))) := by
  rcases place_eq hc h hlow hhigh with hplace | ⟨hplace, hpower, hq, hbelow⟩
  · exact Or.inl ⟨hplace, h.roundsEven⟩
  · exact Or.inr ⟨hplace, hpower, h.roundsEven_carry hpower hq hbelow⟩

/-- A double is the nearest to itself. -/
theorem roundsTo_self (m : Nat) (q : Int) : RoundsTo m q ((m : ℚ) * 2 ^ q) := by
  have hself : (m : ℚ) * 2 ^ q / 2 ^ q = m := mul_div_cancel_right₀ _ (two_zpow_pos q).ne'
  have hreach : 0 < reachBelow m q := by
    unfold reachBelow
    split_ifs
    all_goals norm_num
  refine ⟨?_, ?_, fun _ => ⟨?_, ?_⟩⟩
  all_goals
    rw [hself]
    linarith

/-- The numbers that are far from the least and the largest doubles. -/
structure InRange (v : ℚ) : Prop where
  low : (2 : ℚ) ^ (-200 : Int) ≤ v
  high : v < 2 ^ (200 : Int)

/-- Every number in range has a nearest double, whose mantissa has all its places. -/
theorem InRange.exists_roundsTo (h : InRange v) :
    ∃ m q, Canonical m q ∧ 2 ^ 52 ≤ m ∧ RoundsTo m q v := by
  have hv : 0 < v := (two_zpow_pos _).trans_le h.low
  obtain ⟨e, hlow, hhigh⟩ := exists_mem_Ico_zpow hv (show (1 : ℚ) < 2 from one_lt_two)
  have he : -200 < e + 1 := zpow_lt_two_iff.mp (h.low.trans_lt hhigh)
  have he' : e < 200 := zpow_lt_two_iff.mp (hlow.trans_lt h.high)
  obtain ⟨q, rfl⟩ : ∃ q, e = q + 52 := ⟨e - 52, by omega⟩
  rw [le_div_zpow_iff] at hlow
  rw [show q + 52 + 1 = q + 53 by omega, div_zpow_lt_iff] at hhigh
  obtain ⟨n, hn⟩ := exists_roundsEven ((two_zpow_pos 52).le.trans hlow)
  have hlow' := hn.low
  have hhigh' := hn.high
  have hleast : leastExponent < q := by
    unfold leastExponent
    omega
  norm_num at hlow hhigh
  have hn52 : 2 ^ 52 ≤ n := by
    by_contra hlt
    have hbound : (n : ℚ) + 1 ≤ 2 ^ 52 := by exact_mod_cast (show n + 1 ≤ 2 ^ 52 by omega)
    linarith
  have hn53 : n ≤ 2 ^ 53 := by
    by_contra hlt
    have hbound : (2 : ℚ) ^ 53 + 1 ≤ n := by exact_mod_cast (show 2 ^ 53 + 1 ≤ n by omega)
    linarith
  rcases Nat.lt_or_eq_of_le hn53 with hlt | rfl
  · refine ⟨n, q, ⟨hlt, hleast.le, by omega, Or.inl hn52⟩, hn52, ?_, hhigh', fun hodd => ?_⟩
    · unfold reachBelow
      split_ifs with hpower
      · rw [hpower.1]
        norm_num
        linarith
      · exact hlow'
    · obtain ⟨hstrict, hstrict'⟩ := hn.odd hodd
      have hreach : reachBelow n q = 1 / 2 := if_neg fun hpower => by omega
      exact ⟨hreach ▸ hstrict, hstrict'⟩
  · -- Rounding up reached the carry, so the place is the next one.
    refine ⟨2 ^ 52, q + 1, ⟨by decide, by omega, by omega, Or.inl le_rfl⟩, le_rfl, ?_⟩
    have hhalf : v / 2 ^ (q + 1) = v / 2 ^ q / 2 := by
      rw [zpow_add_one₀ two_ne_zero, div_div]
    have hreach : reachBelow (2 ^ 52) (q + 1) = 1 / 4 := if_pos ⟨rfl, by omega⟩
    refine ⟨?_, ?_, fun hodd => absurd hodd (by decide)⟩
    · rw [hreach, hhalf]
      norm_num at hlow' ⊢
      linarith
    · rw [hhalf]
      norm_num
      linarith

/-- A number rounded to a whole multiple of `2^s`. -/
theorem roundEven_shifted (num : Nat) (hden : 0 < den) {s : Int} {n : Nat}
    (h : RoundsEven n ((num : ℚ) / den / 2 ^ s)) :
    (if 0 ≤ s then roundEven num (den * 2 ^ s.toNat) else roundEven (num * 2 ^ (-s).toNat) den)
      = n := by
  have htwo : ((2 : Nat) : ℚ) = 2 := Nat.cast_ofNat
  rw [← htwo] at h
  by_cases hs : 0 ≤ s
  · rw [div_zpow_of_nonneg hs] at h
    rw [if_pos hs]
    exact roundEven_eq (by positivity) h
  · rw [div_zpow_of_nonpos (by omega)] at h
    rw [if_neg hs]
    exact roundEven_eq hden h

/-- A number is rounded to the double that is nearest to it. -/
theorem nearestPattern_eq (hc : Canonical m q) (hm : 0 < m) (hden : 0 < den)
    (h : RoundsTo m q ((num : ℚ) / den)) : nearestPattern num den = patternOf m q := by
  have hnum : 0 < num := by
    have hpos := (div_pos_iff_of_pos_right (Nat.cast_pos.mpr hden)).mp (h.pos hm)
    exact Nat.cast_pos.mp hpos
  obtain ⟨hlow, hhigh⟩ := binaryExponent_spec hnum hden
  have hpattern := hc.patternOf_lt
  unfold nearestPattern
  dsimp only
  rw [if_neg hnum.ne']
  rcases h.rounded hc hlow hhigh with ⟨hplace, hround⟩ | ⟨hplace, hpower, hround⟩
  · rw [hplace, roundEven_shifted num hden hround]
    exact min_eq_right hpattern.le
  · -- The carry lands in the exponent.
    have hleast := hc.least
    have hlower : leastExponent ≤ q - 1 := hplace ▸ le_max_right _ _
    have hcarry : (q - 1 - leastExponent).toNat * 2 ^ 52 + 2 ^ 53 = patternOf m q := by
      unfold patternOf
      omega
    rw [hplace, roundEven_shifted num hden hround, hcarry]
    exact min_eq_right hpattern.le

/-- The double nearest to a quotient, with a sign. -/
theorem nearest_eq (hc : Canonical m q) (hm : 0 < m) (hden : 0 < den)
    (h : RoundsTo m q ((num : ℚ) / den)) (negative : Bool) :
    nearest negative num den = ofPattern negative (patternOf m q) := by
  unfold nearest
  rw [nearestPattern_eq hc hm hden h]

/-! ## Reading digits -/

theorem ten_zpow_pos (e : Int) : (0 : ℚ) < 10 ^ e :=
  zpow_pos (by norm_num) e

theorem ten_zpow_le_iff {i j : Int} : (10 : ℚ) ^ i ≤ 10 ^ j ↔ i ≤ j :=
  zpow_le_zpow_iff_right₀ (by norm_num)

/-- Powers are compared as natural numbers. -/
theorem two_pow_lt_ten_pow {i j : Nat} (h : 2 ^ i < 10 ^ j) :
    (2 : ℚ) ^ (i : Int) < 10 ^ (j : Int) := by
  rw [zpow_natCast, zpow_natCast]
  exact_mod_cast h

/-- No finite double is anywhere near the limit beyond which no power is formed. -/
theorem RoundsTo.lt_pow (hc : Canonical m q) (h : RoundsTo m q v) : v < 10 ^ (310 : Int) := by
  have hm : (m : ℚ) + 1 ≤ 2 ^ 53 := by exact_mod_cast hc.bound
  have hmost := hc.most
  have hpowers : (2 : ℚ) ^ (1024 : Int) < 10 ^ (310 : Int) := by
    apply two_pow_lt_ten_pow
    decide +kernel
  calc v < 2 ^ (q + 53) := by
        rw [div_zpow_lt_iff]
        have hreach := h.high
        norm_num at hm ⊢
        linarith
    _ ≤ 2 ^ (1024 : Int) := (zpow_le_zpow_iff_right₀ one_lt_two).mpr (by omega)
    _ ≤ 10 ^ (310 : Int) := hpowers.le

/-- Nothing that rounds to a positive double is too small for the shortcut. -/
theorem RoundsTo.pow_lt (hc : Canonical m q) (hm : 0 < m) (h : RoundsTo m q v) :
    10 ^ (-400 : Int) < v := by
  have hm' : (1 : ℚ) ≤ m := Nat.one_le_cast.mpr hm
  have hleast : -1074 ≤ q := hc.least
  have hpowers : (10 : ℚ) ^ (-400 : Int) < 2 ^ (-1075 : Int) := by
    rw [zpow_neg, zpow_neg]
    refine inv_strictAnti₀ (two_zpow_pos _) ?_
    apply two_pow_lt_ten_pow
    decide +kernel
  calc (10 : ℚ) ^ (-400 : Int) < 2 ^ (-1075 : Int) := hpowers
    _ ≤ 2 ^ (q + -1) := (zpow_le_zpow_iff_right₀ one_lt_two).mpr (by omega)
    _ ≤ v := by
        rw [le_div_zpow_iff]
        have hreach := h.half_le
        norm_num
        linarith

/-- **Digits are read as the double that is nearest to them.** -/
theorem ofDecimal_eq (hc : Canonical m q) (hm : 0 < m) {digits : Nat} {exponent : Int}
    (h : RoundsTo m q ((digits : ℚ) * 10 ^ exponent)) (negative : Bool) :
    ofDecimal negative digits exponent = ofPattern negative (patternOf m q) := by
  have hpos : 0 < digits := by
    by_contra hzero
    have hv := h.pos hm
    rw [Nat.eq_zero_of_not_pos hzero, Nat.cast_zero, zero_mul] at hv
    exact lt_irrefl _ hv
  have hone : (1 : ℚ) ≤ digits := Nat.one_le_cast.mpr hpos
  -- Neither limit beyond which no power is formed is reached.
  have hhigh : ¬ 310 < exponent := by
    intro hlarge
    have hpower : (10 : ℚ) ^ (310 : Int) ≤ digits * 10 ^ exponent :=
      (ten_zpow_le_iff.mpr hlarge.le).trans (le_mul_of_one_le_left (ten_zpow_pos _).le hone)
    exact absurd (h.lt_pow hc) (not_lt.mpr hpower)
  have hlow : ¬ exponent + (digits.log2 : Int) + 1 < -400 := by
    intro hsmall
    have hdigits : (digits : ℚ) ≤ 10 ^ ((digits.log2 : Int) + 1) := by
      refine (log2_bounds hpos).2.le.trans ?_
      exact zpow_le_zpow_left₀ (by omega) (by norm_num) (by norm_num)
    have hpower : (digits : ℚ) * 10 ^ exponent ≤ 10 ^ (-400 : Int) := by
      calc (digits : ℚ) * 10 ^ exponent ≤ 10 ^ ((digits.log2 : Int) + 1) * 10 ^ exponent :=
            mul_le_mul_of_nonneg_right hdigits (ten_zpow_pos _).le
        _ = 10 ^ ((digits.log2 : Int) + 1 + exponent) := (zpow_add₀ (by norm_num) _ _).symm
        _ ≤ 10 ^ (-400 : Int) := ten_zpow_le_iff.mpr (by omega)
    exact absurd (h.pow_lt hc hm) (not_lt.mpr hpower)
  have hten : ((10 : Nat) : ℚ) = 10 := Nat.cast_ofNat
  rw [← hten] at h
  unfold ofDecimal
  dsimp only
  rw [if_neg hpos.ne', if_neg hhigh, if_neg hlow]
  by_cases he : 0 ≤ exponent
  · rw [if_pos he]
    refine nearest_eq hc hm one_pos ?_ negative
    rwa [zpow_of_nonneg he, ← Nat.cast_mul, ← div_one ((_ : Nat) : ℚ), ← Nat.cast_one] at h
  · rw [if_neg he]
    refine nearest_eq hc hm (by positivity) ?_ negative
    rwa [zpow_of_nonpos (by omega), ← div_eq_mul_inv] at h

end PoissonFactor.Decimal
