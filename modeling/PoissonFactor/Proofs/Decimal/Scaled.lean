import PoissonFactor.Decimal.Scaled
import PoissonFactor.Proofs.Decimal.Arithmetic
import PoissonFactor.Proofs.Literal.Number

/-!
# Decimals of few digits are read exactly

Digits that are taken up in a double stay exact as long as their number has a double
(`Decimal.takeUp_eq`), and so does a power of ten that is not too large. One division of the two is
rounded to the nearest double, so

> `Decimal.readScaled?_eq`: seventeen digits or fewer, whose number has a double, are read as the
> double that is nearest to them.

A number far below the largest doubles has a finite one, however far behind the point its digits
stand (`Decimal.isFinite_ofDecimal`).
-/

namespace PoissonFactor

namespace Numeral

/-- One more digit is taken up from the right. -/
theorem digitsValue_concat (cs : List Char) (c : Char) :
    digitsValue (cs ++ [c]) = digitsValue cs * 10 + (c.toNat - 48) := by
  unfold digitsValue
  rw [List.foldl_concat]

end Numeral

namespace Decimal

open Numeral (digitsValue)
open Literal (AllDigits)

/-! ## Digits taken up -/

theorem ten_eq : (10 : Float) = nearest false 10 1 := by
  decide +kernel

theorem toFloat_digit : ∀ d < 10, (d : Nat).toFloat = nearest false d 1 := by
  decide +kernel

/-- The first digit is taken up as it is, for ten times zero is zero. -/
theorem zero_mul_ten_add :
    ∀ d < 10, nearest false 0 1 * 10 + (d : Nat).toFloat = nearest false d 1 := by
  decide +kernel

/-- A digit is below ten. -/
theorem digit_lt {c : Char} (hc : c.isDigit = true) : c.toNat - 48 < 10 := by
  obtain ⟨-, hhigh⟩ := Char.isDigit_iff_toNat.mp hc
  have hnine : '9'.toNat = 57 := rfl
  omega

theorem takeUp_concat (ds : List Char) (c : Char) :
    takeUp (ds ++ [c]) = takeUp ds * 10 + (c.toNat - 48).toFloat := by
  unfold takeUp
  rw [List.foldl_concat]

/-- One more digit is taken up exactly, if the number stays exact: a zero behind at most fifteen
digits, or any digit that does not make the number too large. -/
theorem takeUp_step {n d : Nat} (hd : d < 10) (hn : 10 * n + d < 2 ^ 53 ∨ d = 0 ∧ n < 10 ^ 15) :
    nearest false n 1 * 10 + d.toFloat = nearest false (n * 10 + d) 1
      ∧ Exact (n * 10 + d) := by
  -- Ten times a number has one binary place less than its size tells.
  have hfive : 5 * n < 2 ^ 53 := by omega
  have hten : Exact (n * 10) := ⟨5 * n, 1, hfive, by decide, by omega⟩
  constructor
  · rcases Nat.eq_zero_or_pos n with rfl | hpos
    · rw [zero_mul_ten_add d hd, Nat.zero_mul, Nat.zero_add]
    · have hproduct : nearest false n 1 * 10 = nearest false (n * 10) 1 := by
        have hn' : IsNumber (nearest false n 1) false n :=
          (exact_of_lt (by omega)).isNumber hpos false
        have hten' : IsNumber 10 false (10 : Nat) :=
          ten_eq ▸ (exact_of_lt (by decide)).isNumber (by decide) false
        refine hn'.mul_eq hten' one_pos ?_ (inRange_div (by omega) one_pos (by omega) (by decide))
        push_cast
        ring
      rw [hproduct, toFloat_digit d hd]
      have hnumber := hten.isNumber (by omega) false
      rcases Nat.eq_zero_or_pos d with rfl | hdpos
      · rw [nearest_zero, Nat.add_zero]
        exact hnumber.add_zero
      · have hdigit := (exact_of_lt (n := d) (by omega)).isNumber hdpos false
        refine hnumber.add_eq hdigit one_pos ?_
          (inRange_div (by omega) one_pos (by omega) (by decide))
        push_cast
        ring
  · rcases hn with hlt | ⟨rfl, -⟩
    · exact exact_of_lt (by omega)
    · exact hten

/-- **Digits are taken up exactly** as long as their number is. -/
theorem takeUp_eq {ds : List Char} (hds : AllDigits ds) (h : digitsValue ds < 2 ^ 53) :
    takeUp ds = nearest false (digitsValue ds) 1 := by
  induction ds using List.reverseRecOn with
  | nil => decide +kernel
  | append_singleton ds c ih =>
    obtain ⟨hds', hc⟩ := List.forall_mem_append.mp hds
    have hdigit := digit_lt (hc c List.mem_cons_self)
    rw [Numeral.digitsValue_concat] at h ⊢
    rw [takeUp_concat, ih hds' (by omega)]
    exact (takeUp_step hdigit (Or.inl (by omega))).1

/-- A zero behind fifteen digits is taken up as well. -/
theorem takeUp_concat_zero {ds : List Char} (hds : AllDigits ds) (h : digitsValue ds < 10 ^ 15) :
    takeUp (ds ++ ['0']) = nearest false (digitsValue (ds ++ ['0'])) 1
      ∧ Exact (digitsValue (ds ++ ['0'])) := by
  rw [takeUp_concat, Numeral.digitsValue_concat, takeUp_eq hds (by omega)]
  exact takeUp_step (by decide) (Or.inr ⟨by decide, h⟩)

/-! ## Scaling -/

/-- Small powers of ten are exact. -/
theorem powerOfTen_eq {k : Nat} (h : k ≤ 22) : powerOfTen k = nearest false (10 ^ k) 1 := by
  unfold powerOfTen ofDecimal
  dsimp only
  rw [if_neg (by decide), if_neg (by omega), if_neg (by omega), if_pos (by omega), Nat.one_mul,
    Int.toNat_natCast]

theorem isNumber_powerOfTen {k : Nat} (h : k ≤ 22) :
    IsNumber (powerOfTen k) false ((10 ^ k : Nat) : ℚ) := by
  rw [powerOfTen_eq h]
  exact (exact_pow_ten h).isNumber (by positivity) false

/-- Every pattern below that of infinity is that of a finite double. -/
theorem exists_canonical {p : Nat} (h : p < infinityBits) :
    ∃ m q, Canonical m q ∧ patternOf m q = p := by
  unfold infinityBits at h
  by_cases hsmall : p < 2 ^ 52
  · refine ⟨p, leastExponent, ⟨by omega, le_rfl, by decide, Or.inr rfl⟩, ?_⟩
    unfold patternOf
    omega
  · refine ⟨p % 2 ^ 52 + 2 ^ 52, leastExponent + (p / 2 ^ 52 - 1 : Nat),
      ⟨by omega, by omega, ?_, Or.inl (by omega)⟩, ?_⟩
    · unfold leastExponent
      omega
    · unfold patternOf
      omega

/-- So it is the pattern that tells whether a double is finite. -/
theorem isFinite_ofPattern {p : Nat} (h : p < infinityBits) (negative : Bool) :
    isFinite (ofPattern negative p) = true := by
  obtain ⟨m, q, hc, rfl⟩ := exists_canonical h
  unfold isFinite
  rw [parts_ofPattern hc]

/-- What is far below the largest doubles does not round to infinity. -/
theorem nearestPattern_lt {num den : Nat} (hden : 0 < den)
    (h : (num : ℚ) / den < 2 ^ (1000 : Int)) : nearestPattern num den < infinityBits := by
  by_cases hzero : num = 0
  · rw [nearestPattern, if_pos hzero]
    decide
  obtain ⟨hlow, hhigh⟩ := binaryExponent_spec (Nat.pos_of_ne_zero hzero) hden
  have he : binaryExponent num den < 1000 := zpow_lt_two_iff.mp (hlow.trans_lt h)
  obtain ⟨q, hq⟩ : ∃ q, max (binaryExponent num den - 52) leastExponent = q := ⟨_, rfl⟩
  have hlarge : binaryExponent num den + 1 ≤ q + 53 := by omega
  have hvalue : (0 : ℚ) ≤ (num : ℚ) / den / 2 ^ q := by positivity
  obtain ⟨n, hn⟩ := exists_roundsEven hvalue
  have hplaces : (num : ℚ) / den / 2 ^ q < 2 ^ (53 : Int) := by
    rw [← div_zpow_lt_iff]
    exact hhigh.trans_le (zpow_le_zpow_right₀ one_le_two hlarge)
  have hbound : n ≤ 2 ^ 53 := by
    have hnear := hn.low
    by_contra hlt
    have hmore : (2 : ℚ) ^ 53 + 1 ≤ n := by exact_mod_cast (show 2 ^ 53 + 1 ≤ n by omega)
    norm_num at hplaces
    linarith
  unfold nearestPattern
  dsimp only
  rw [if_neg hzero, hq, roundEven_shifted num hden hn]
  refine (min_le_right _ _).trans_lt ?_
  unfold infinityBits leastExponent at *
  omega

/-- The double nearest to such a number is finite. -/
theorem isFinite_nearest {num den : Nat} (hden : 0 < den)
    (h : (num : ℚ) / den < 2 ^ (1000 : Int)) (negative : Bool) :
    isFinite (nearest negative num den) = true :=
  isFinite_ofPattern (nearestPattern_lt hden h) negative

/-- Numbers of few digits are far below the largest doubles, whatever they are divided by. -/
theorem div_lt_of_lt {num den : Nat} (hden : 0 < den) (hnum : num < 10 ^ 20) :
    (num : ℚ) / den < 2 ^ (1000 : Int) := by
  have hone : (1 : ℚ) ≤ den := Nat.one_le_cast.mpr hden
  have hlarge : (10 : ℚ) ^ 20 ≤ 2 ^ (1000 : Int) :=
    calc (10 : ℚ) ^ 20 ≤ 2 ^ (67 : Int) := by norm_num
      _ ≤ 2 ^ (1000 : Int) := zpow_le_zpow_right₀ one_le_two (by decide)
  have hnum' : (num : ℚ) < 10 ^ 20 := by exact_mod_cast hnum
  exact (div_le_self (Nat.cast_nonneg num) hone).trans_lt (hnum'.trans_le hlarge)

/-- **A decimal far below the largest doubles has a finite one**, however many places it has. -/
theorem isFinite_ofDecimal {digits : Nat} {exponent : Int} (he : exponent ≤ 0)
    (h : (digits : ℚ) / (10 ^ (-exponent).toNat : Nat) < 2 ^ (1000 : Int)) (negative : Bool) :
    isFinite (ofDecimal negative digits exponent) = true := by
  have hzero : isFinite (ofPattern negative 0) = true := isFinite_ofPattern (by decide) negative
  unfold ofDecimal
  dsimp only
  split_ifs with hnone hlarge hsmall hwhole
  · exact hzero
  · omega
  · exact hzero
  · obtain rfl : exponent = 0 := by omega
    rw [Int.toNat_zero, Nat.pow_zero, Nat.mul_one]
    exact isFinite_nearest one_pos h negative
  · exact isFinite_nearest (by positivity) h negative

/-- Digits divided by a power of ten. -/
theorem scale?_neg {n k : Nat} (hexact : Exact n) (hn : n < 10 ^ 20) (hk : k ≤ 22)
    (negative : Bool) :
    scale? (nearest negative n 1) (-(k : Int)) = some (nearest negative n (10 ^ k)) := by
  have hpower := isNumber_powerOfTen hk
  have hpos : 0 < 10 ^ k := by positivity
  have hlow : 10 ^ k ≤ 10 ^ 40 := Nat.pow_le_pow_right (by decide) (by omega)
  have hquotient : nearest negative n 1 / powerOfTen k = nearest negative n (10 ^ k) := by
    rcases Nat.eq_zero_or_pos n with rfl | hnpos
    · rw [nearest_zero, nearest_zero]
      exact hpower.zero_div negative
    · exact (hexact.isNumber hnpos negative).div_eq hpower hpos rfl (inRange_div hnpos hpos hn hlow)
  have hfinite := isFinite_nearest hpos (div_lt_of_lt hpos hn) negative
  have hbranch : ¬ 308 < -(k : Int) ∧ ¬ 0 < -(k : Int) ∧ ¬ -(k : Int) < -616
      ∧ ¬ -(k : Int) < -308 := by omega
  unfold scale?
  simp only [hbranch, if_false, Int.neg_neg, Int.toNat_natCast, hquotient, hfinite, if_true]

/-! ## Decimals -/

/-- **Up to seventeen digits are read as the nearest double**, if their number has one. -/
theorem readScaled?_eq {whole fraction : List Char} {exponent : Int} {k : Nat}
    (hlength : whole.length + fraction.length ≤ 17)
    (htaken : takeUp (whole ++ fraction) = nearest false (digitsValue (whole ++ fraction)) 1)
    (hexact : Exact (digitsValue (whole ++ fraction)))
    (hsmall : digitsValue (whole ++ fraction) < 10 ^ 20)
    (hexponent : exponent - fraction.length = -(k : Int)) (hk : k ≤ 22) (negative : Bool) :
    readScaled? negative whole fraction exponent
      = some (nearest negative (digitsValue (whole ++ fraction)) (10 ^ k)) := by
  have hwhole : whole.take takenDigits = whole :=
    List.take_of_length_le (by unfold takenDigits; omega)
  have hfraction : fraction.take (takenDigits - whole.length) = fraction :=
    List.take_of_length_le (by unfold takenDigits; omega)
  unfold readScaled?
  dsimp only
  rw [hwhole, hfraction, htaken, hexact.signed, Nat.sub_self, Int.natCast_zero, Int.add_zero,
    hexponent]
  exact scale?_neg hexact hsmall hk negative

/-- In particular if they are fifteen besides zeros in front. -/
theorem readScaled?_of_lt {whole fraction : List Char} {exponent : Int} {k : Nat}
    (hall : AllDigits (whole ++ fraction)) (hlength : (whole ++ fraction).length ≤ 17)
    (hvalue : digitsValue (whole ++ fraction) < 10 ^ 15)
    (hexponent : exponent - fraction.length = -(k : Int)) (hk : k ≤ 22) (negative : Bool) :
    readScaled? negative whole fraction exponent
      = some (nearest negative (digitsValue (whole ++ fraction)) (10 ^ k)) := by
  rw [List.length_append] at hlength
  exact readScaled?_eq hlength (takeUp_eq hall (by omega)) (exact_of_lt (by omega)) (by omega)
    hexponent hk negative

/-- The doubles that fifteen digits and sixteen places give. -/
def IsShort (x : Float) : Prop :=
  ∃ negative n k, n < 10 ^ 15 ∧ k ≤ 16 ∧ x = nearest negative n (10 ^ k)

end Decimal

end PoissonFactor
