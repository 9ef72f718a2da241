import PoissonFactor.Proofs.Decimal.Shortest

/-!
# The shortest digits of a short decimal are its own

A number of fifteen digits or fewer is the only number of that many digits that is read as its
double: the numbers that are lie within one last place of the double, and two of fifteen digits
lie further apart (`Decimal.Short.value_unique`). So the double's shortest digits stand for that
very number:

> `Decimal.Short.shortest_spec`: they are no more than fifteen, and no more places than it has.
-/

namespace PoissonFactor.Decimal

/-- Digits are a whole number of units of any place at or below their own. -/
theorem Digits.exists_multiple {d : Digits} {e : Int} (h : e ≤ d.exponent) :
    ∃ a : Nat, d.value = (a : ℚ) * 10 ^ e := by
  obtain ⟨i, hi⟩ : ∃ i : Nat, d.exponent = i + e := ⟨(d.exponent - e).toNat, by omega⟩
  refine ⟨d.digits * 10 ^ i, ?_⟩
  unfold Digits.value
  rw [hi, zpow_add₀ (by norm_num), zpow_natCast]
  push_cast
  ring

/-- The double `m · 2^q` is the nearest to a decimal of no more than fifteen digits. -/
structure Short (m : Nat) (q : Int) (s : Digits) : Prop where
  canonical : Canonical m q
  normal : 2 ^ 52 ≤ m
  positive : 0 < s.digits
  few : s.digits < 10 ^ 15
  nearest : RoundsTo m q s.value

namespace Short

variable {m : Nat} {q : Int} {s : Digits}

/-- The decimal point of a double. -/
def point (m : Nat) (q : Int) : Int :=
  decimalPoint (quotient m q).1 (quotient m q).2

theorem point_bounds (hm : 0 < m) (q : Int) :
    (10 : ℚ) ^ (point m q - 1) ≤ m * 2 ^ q ∧ (m : ℚ) * 2 ^ q < 10 ^ point m q := by
  obtain ⟨hden, hvalue⟩ := quotient_spec m q
  have hnum : 0 < (quotient m q).1 := by
    have hm' : (0 : ℚ) < m := Nat.cast_pos.mpr hm
    have hratio : (0 : ℚ) < ((quotient m q).1 : ℚ) / (quotient m q).2 := by
      rw [hvalue]
      exact mul_pos hm' (two_zpow_pos q)
    exact Nat.cast_pos.mp ((div_pos_iff_of_pos_right (Nat.cast_pos.mpr hden)).mp hratio)
  rw [← hvalue]
  exact ⟨pow_decimalPoint_le hnum hden, lt_pow_decimalPoint hnum hden⟩

/-- A number that is read as a double is off by half a last place at most. -/
theorem abs_sub_le {v : ℚ} (h : RoundsTo m q v) : |v - m * 2 ^ q| ≤ 2 ^ q / 2 := by
  have htwo := two_zpow_pos q
  have hlow := h.half_le
  have hhigh := h.high
  rw [le_div_iff₀ htwo] at hlow
  rw [div_le_iff₀ htwo] at hhigh
  rw [abs_le]
  constructor
  · linarith
  · linarith

/-- There are fifty-two places in front of the last one. -/
theorem place_mul_le (hnormal : 2 ^ 52 ≤ m) (q : Int) : (2 : ℚ) ^ 52 * 2 ^ q ≤ m * 2 ^ q := by
  have hm : (2 : ℚ) ^ 52 ≤ m := by exact_mod_cast hnormal
  exact mul_le_mul_of_nonneg_right hm (two_zpow_pos q).le

/-- A last place is far smaller than the fifteenth digit. -/
theorem place_lt (hnormal : 2 ^ 52 ≤ m) : (2 : ℚ) ^ q * 4 < 10 ^ (point m q - 15) := by
  have hten := ten_zpow_pos (point m q - 15)
  have hlarge := (point_bounds (show 0 < m by omega) q).2
  have hsplit : (10 : ℚ) ^ point m q = 10 ^ (point m q - 15) * 10 ^ 15 := by
    rw [← zpow_natCast, ← zpow_add₀ (by norm_num)]
    congr 1
    omega
  have hmul := place_mul_le hnormal q
  rw [hsplit] at hlarge
  norm_num at hlarge hmul
  linarith

/-- Fifteen digits of the double reach as far as the places of the decimal. -/
theorem point_le (h : Short m q s) : point m q - 15 ≤ s.exponent := by
  by_contra hlt
  have hnormal := h.normal
  have hten := ten_zpow_pos s.exponent
  -- Otherwise the double is `10^15` units of the decimal's last place, or more, and the decimal
  -- less; but then the double is off by more than half its own last place.
  have hpower : 10 ^ 15 * (10 : ℚ) ^ s.exponent ≤ 10 ^ (point m q - 1) := by
    rw [← zpow_natCast, ← zpow_add₀ (by norm_num)]
    exact ten_zpow_le_iff.mpr (by omega)
  have hsmall : s.value ≤ (10 ^ 15 - 1) * 10 ^ s.exponent := by
    have hs : (s.digits : ℚ) + 1 ≤ 10 ^ 15 := by exact_mod_cast h.few
    exact mul_le_mul_of_nonneg_right (by linarith) hten.le
  have hnear := (abs_le.mp (abs_sub_le h.nearest)).1
  have hlow := (point_bounds (show 0 < m by omega) q).1
  have hmul := place_mul_le hnormal q
  norm_num at hpower hsmall hmul
  linarith

/-- **Of the numbers of fifteen digits only one is read as the double.** -/
theorem value_unique (h : Short m q s) {d : Digits} (hd : RoundsTo m q d.value)
    (hplaces : point m q - 15 ≤ d.exponent) : d.value = s.value := by
  obtain ⟨a, ha⟩ := Digits.exists_multiple hplaces
  obtain ⟨b, hb⟩ := Digits.exists_multiple h.point_le
  have hten := ten_zpow_pos (point m q - 15)
  have hnear := abs_le.mp (abs_sub_le hd)
  have hnear' := abs_le.mp (abs_sub_le h.nearest)
  have hplace := place_lt (q := q) h.normal
  have htwo := two_zpow_pos q
  rw [ha] at hnear ⊢
  rw [hb] at hnear' ⊢
  -- They are less than one unit of the fifteenth digit apart.
  have hlow : ((a : ℚ) - b) * 10 ^ (point m q - 15) < 1 * 10 ^ (point m q - 15) := by
    rw [sub_mul]
    linarith
  have hhigh : ((b : ℚ) - a) * 10 ^ (point m q - 15) < 1 * 10 ^ (point m q - 15) := by
    rw [sub_mul]
    linarith
  have hlow' := lt_of_mul_lt_mul_right hlow hten.le
  have hhigh' := lt_of_mul_lt_mul_right hhigh hten.le
  have hab : a < b + 1 := by
    have hlt : (a : ℚ) < b + 1 := by linarith
    exact_mod_cast hlt
  have hba : b < a + 1 := by
    have hlt : (b : ℚ) < a + 1 := by linarith
    exact_mod_cast hlt
  rw [show a = b by omega]

/-- The decimal is found on the grid of fifteen digits. -/
theorem exists_onGrid (h : Short m q s) : ∃ d, onGrid m q 15 = some d := by
  obtain ⟨b, hb⟩ := Digits.exists_multiple h.point_le
  have hten := ten_zpow_pos (point m q - 15)
  have hm : 0 < m := by
    have hnormal := h.normal
    omega
  obtain ⟨hden, hvalue⟩ := quotient_spec m q
  obtain ⟨hscaled, hgrid⟩ := scaled_spec (quotient m q).1 hden (point m q - 15)
  have hnear := abs_le.mp (abs_sub_le h.nearest)
  have hplace := place_lt (q := q) h.normal
  have hround : RoundsEven b ((scaled (quotient m q).1 (quotient m q).2 (point m q - 15)).1
      / (scaled (quotient m q).1 (quotient m q).2 (point m q - 15)).2) := by
    rw [hgrid, hvalue]
    rw [hb] at hnear
    have hlow : (b : ℚ) - 1 / 2 < m * 2 ^ q / 10 ^ (point m q - 15) := by
      rw [lt_div_iff₀ hten, sub_mul]
      linarith
    have hhigh : (m : ℚ) * 2 ^ q / 10 ^ (point m q - 15) < b + 1 / 2 := by
      rw [div_lt_iff₀ hten, add_mul]
      linarith
    exact ⟨hlow.le, hhigh.le, fun _ => ⟨hlow, hhigh⟩⟩
  have hread : readsBack m q b (point m q - 15) = true := by
    rw [readsBack_iff hm, ← hb]
    exact h.nearest
  refine ⟨⟨b, point m q - 15⟩, ?_⟩
  unfold onGrid
  dsimp only
  have hpoint : decimalPoint (quotient m q).1 (quotient m q).2 - ((15 : Nat) : Int)
      = point m q - 15 := rfl
  rw [hpoint, roundEven_eq hscaled hround, if_pos hread]

/-- Digits that are found on a grid have its places. -/
theorem exponent_of_onGrid {i : Nat} {d : Digits} (h : onGrid m q i = some d) :
    d.exponent = point m q - i := by
  unfold onGrid at h
  dsimp only at h
  split at h
  next =>
    cases h
    rfl
  next =>
    obtain ⟨-, hother⟩ := Option.ite_none_right_eq_some.mp h
    cases hother
    rfl

/-- A search that begins at fifteen digits or fewer finds the decimal. -/
theorem shortestFrom_spec (h : Short m q s) {i fuel : Nat} (hi : i ≤ 15) (hfuel : i + fuel = 17) :
    (shortestFrom m q i fuel).value = s.value
      ∧ point m q - 15 ≤ (shortestFrom m q i fuel).exponent := by
  have hm : 0 < m := by
    have hnormal := h.normal
    omega
  induction fuel generalizing i with
  | zero => omega
  | succ fuel ih =>
    unfold shortestFrom
    cases hgrid : onGrid m q i with
    | some d =>
      have hexponent : point m q - 15 ≤ d.exponent := by
        rw [exponent_of_onGrid hgrid]
        omega
      exact ⟨h.value_unique (roundsTo_of_onGrid hm hgrid) hexponent, hexponent⟩
    | none =>
      have hne : i ≠ 15 := by
        intro heq
        obtain ⟨d, hd⟩ := h.exists_onGrid
        rw [heq, hd] at hgrid
        cases hgrid
      exact ih (by omega) (by omega)

/-- Digits of the decimal's value that are found on a grid are not many more than fifteen. -/
theorem digits_lt (h : Short m q s) {d : Digits} (hd : d.value = s.value)
    (hplaces : point m q - 15 ≤ d.exponent) : d.digits < 10 ^ 17 := by
  have hten := ten_zpow_pos (point m q - 15)
  have hnear := (abs_le.mp (abs_sub_le h.nearest)).2
  have hplace := place_lt (q := q) h.normal
  have hm : 0 < m := by
    have hnormal := h.normal
    omega
  have hlarge := (point_bounds hm q).2
  have hsplit : (10 : ℚ) ^ point m q = 10 ^ 15 * 10 ^ (point m q - 15) := by
    rw [← zpow_natCast, ← zpow_add₀ (by norm_num)]
    congr 1
    omega
  have hunits : (d.digits : ℚ) * 10 ^ (point m q - 15) ≤ s.value := by
    rw [← hd]
    exact mul_le_mul_of_nonneg_left (ten_zpow_le_iff.mpr hplaces) (Nat.cast_nonneg _)
  have hbound : (d.digits : ℚ) * 10 ^ (point m q - 15) < 10 ^ 17 * 10 ^ (point m q - 15) := by
    rw [hsplit] at hlarge
    norm_num at hlarge ⊢
    linarith
  have hlt := lt_of_mul_lt_mul_right hbound hten.le
  exact_mod_cast hlt

end Short

/-! ## Without trailing zeros -/

theorem Digits.trim_mod {i : Nat} {d : Digits} (hpos : d.digits ≠ 0) (h : d.digits < 10 ^ i) :
    (d.trim i).digits % 10 ≠ 0 := by
  induction i generalizing d with
  | zero => omega
  | succ i ih =>
    unfold Digits.trim
    split_ifs with hzero
    · refine ih ?_ ?_
      · show d.digits / 10 ≠ 0
        omega
      · show d.digits / 10 < 10 ^ i
        rw [Nat.pow_succ] at h
        omega
    · exact fun hmod => hzero ⟨hpos, hmod⟩

/-- Of all digits with one value, those without trailing zeros are the fewest, and have the fewest
places. -/
theorem Digits.fewest {d s : Digits} (hd : d.digits % 10 ≠ 0) (h : d.value = s.value) :
    s.exponent ≤ d.exponent ∧ d.digits ≤ s.digits := by
  have hplaces : s.exponent ≤ d.exponent := by
    by_contra hlt
    obtain ⟨i, hi⟩ : ∃ i : Nat, s.exponent = ((i + 1 : Nat) : Int) + d.exponent :=
      ⟨(s.exponent - d.exponent - 1).toNat, by omega⟩
    have hmultiple : d.digits = s.digits * 10 ^ (i + 1) := by
      unfold Digits.value at h
      rw [hi, zpow_add₀ (by norm_num), zpow_natCast, ← mul_assoc,
        mul_left_inj' (ten_zpow_pos _).ne'] at h
      exact_mod_cast h
    rw [hmultiple, Nat.pow_succ, ← Nat.mul_assoc, Nat.mul_mod_left] at hd
    exact hd rfl
  refine ⟨hplaces, ?_⟩
  obtain ⟨i, hi⟩ : ∃ i : Nat, d.exponent = (i : Int) + s.exponent :=
    ⟨(d.exponent - s.exponent).toNat, by omega⟩
  have hmultiple : d.digits * 10 ^ i = s.digits := by
    unfold Digits.value at h
    rw [hi, zpow_add₀ (by norm_num), zpow_natCast, ← mul_assoc,
      mul_left_inj' (ten_zpow_pos _).ne'] at h
    exact_mod_cast h
  rw [← hmultiple]
  exact Nat.le_mul_of_pos_right _ (by positivity)

/-- **The shortest digits of a short decimal stand for it**; they are no more digits than it has,
and no more places. -/
theorem Short.shortest_spec {m : Nat} {q : Int} {s : Digits} (h : Short m q s) :
    (shortest m q).value = s.value ∧ 0 < (shortest m q).digits
      ∧ (shortest m q).digits ≤ s.digits ∧ s.exponent ≤ (shortest m q).exponent := by
  obtain ⟨hvalue, hexponent⟩ :=
    h.shortestFrom_spec (show 1 ≤ 15 by decide) (show 1 + 16 = 17 by decide)
  have htrim : (shortest m q).value = s.value := (Digits.value_trim 17 _).trans hvalue
  have hpositive : (0 : ℚ) < s.value :=
    mul_pos (Nat.cast_pos.mpr h.positive) (ten_zpow_pos _)
  have hnonzero : (shortestFrom m q 1 16).digits ≠ 0 := by
    intro hzero
    rw [← hvalue, Digits.value, hzero, Nat.cast_zero, zero_mul] at hpositive
    exact lt_irrefl _ hpositive
  have hfew : (shortestFrom m q 1 16).digits < 10 ^ 17 := h.digits_lt hvalue hexponent
  have hmod := Digits.trim_mod hnonzero hfew
  obtain ⟨hplaces, hdigits⟩ := Digits.fewest hmod htrim
  have hpos : 0 < (shortest m q).digits := by
    refine Nat.pos_of_ne_zero fun hzero => hmod ?_
    show (shortest m q).digits % 10 = 0
    rw [hzero]
  exact ⟨htrim, hpos, hdigits, hplaces⟩

end PoissonFactor.Decimal
