import PoissonFactor.Proofs.Decimal.Rounding

/-!
# Rounded, packed and unpacked

The library computes with doubles as exact numbers and rounds what comes out. On the way a number
is a mantissa with two bits that tell how far it lies above the mantissa (`Decimal.Stands`), and
shifting places out keeps that (`Decimal.Stands.shiftRight`). So

> `Decimal.roundWithAccuracy_eq`: a number is rounded to the double that is nearest to it,
> `Decimal.eq_ofPattern_of_packed`, `Decimal.unpacked_ofPattern`: which is packed into the pattern
> of its parts, and unpacked from it.
-/

namespace PoissonFactor.Decimal

open Float.Model (Format totalExponent)
open Float.Model.UnpackedFloat

/-! ## Places shifted out -/

/-- A mantissa with its two bits stands for `w`: by the first bit `w` lies half a unit higher, and
by the second one it is not the only thing behind the mantissa. -/
structure Stands (em : ExtendedMantissa) (w : ℚ) : Prop where
  behind : ∃ r : ℚ, 0 ≤ r ∧ r < 1 ∧ (em.stickyBit = true ↔ 0 < r)
    ∧ w = em.mantissa + (em.roundBit.toNat + r) / 2

variable {em : ExtendedMantissa} {w : ℚ}

theorem toNat_le_one (b : Bool) : ((b.toNat : Nat) : ℚ) ≤ 1 := by
  cases b
  · norm_num
  · norm_num

/-- What is cut off makes a number larger. -/
theorem Stands.mantissa_le (h : Stands em w) : (em.mantissa : ℚ) ≤ w := by
  obtain ⟨r, hr, -, -, rfl⟩ := h.behind
  have hbit : (0 : ℚ) ≤ (em.roundBit.toNat : Nat) := Nat.cast_nonneg _
  linarith

/-- But by less than one. -/
theorem Stands.lt_mantissa_succ (h : Stands em w) : w < em.mantissa + 1 := by
  obtain ⟨r, -, hr, -, rfl⟩ := h.behind
  have hbit := toNat_le_one em.roundBit
  linarith

/-- One place shifted out. -/
theorem Stands.shiftRightOne (h : Stands em w) : Stands em.shiftRightOne (w / 2) := by
  obtain ⟨r, hr, hr', hsticky, rfl⟩ := h.behind
  have hbit : (0 : ℚ) ≤ (em.roundBit.toNat : Nat) := Nat.cast_nonneg _
  have hbit' := toNat_le_one em.roundBit
  refine ⟨⟨(em.roundBit.toNat + r) / 2, by linarith, by linarith, ?_, ?_⟩⟩
  · show (em.roundBit || em.stickyBit) = true ↔ _
    rw [Bool.or_eq_true, hsticky]
    cases em.roundBit with
    | false => simp
    | true =>
      have hpos : (0 : ℚ) < (((true.toNat : Nat) : ℚ) + r) / 2 := by
        norm_num
        linarith
      simp only [true_or, true_iff]
      exact hpos
  · have hsplit : (em.mantissa : ℚ) = 2 * (em.mantissa / 2 : Nat) + (em.mantissa % 2 : Nat) := by
      exact_mod_cast (Nat.div_add_mod em.mantissa 2).symm
    have hround : (em.mantissa % 2 != 0).toNat = em.mantissa % 2 := by
      rcases Nat.mod_two_eq_zero_or_one em.mantissa with heven | hodd
      · rw [heven]
        rfl
      · rw [hodd]
        rfl
    show _ = ((em.mantissa / 2 : Nat) : ℚ) + ((em.mantissa % 2 != 0).toNat + _) / 2
    rw [hround, hsplit]
    ring

/-- Any number of places shifted out. -/
theorem Stands.shiftRight (h : Stands em w) (n : Nat) : Stands (em >>> n) (w / 2 ^ n) := by
  show Stands (n.repeat ExtendedMantissa.shiftRightOne em) _
  induction n with
  | zero => rwa [pow_zero, div_one]
  | succ n ih =>
    rw [pow_succ, ← div_div]
    exact ih.shiftRightOne

/-- With its bits a mantissa is rounded to the nearest whole number. -/
theorem Stands.roundsEven (h : Stands em w) : RoundsEven em.roundedMantissa w := by
  obtain ⟨r, hr, hr', hsticky, rfl⟩ := h.behind
  obtain ⟨m, round, sticky⟩ := em
  dsimp only at hsticky ⊢
  cases round <;> cases sticky <;>
    simp only [Bool.false_eq_true, false_iff, true_iff, not_lt, Bool.toNat_false, Bool.toNat_true,
      Nat.cast_zero, Nat.cast_one] at hsticky ⊢
  case false.false =>
    obtain rfl : r = 0 := le_antisymm hsticky hr
    show RoundsEven m _
    exact ⟨by linarith, by linarith, fun _ => ⟨by linarith, by linarith⟩⟩
  case false.true =>
    show RoundsEven m _
    exact ⟨by linarith, by linarith, fun _ => ⟨by linarith, by linarith⟩⟩
  case true.false =>
    obtain rfl : r = 0 := le_antisymm hsticky hr
    show RoundsEven (m + m % 2) _
    rcases Nat.mod_two_eq_zero_or_one m with heven | hodd
    · rw [heven, Nat.add_zero]
      exact ⟨by linarith, by linarith, fun hodd => by omega⟩
    · rw [hodd]
      refine ⟨?_, ?_, fun hodd' => by omega⟩
      · push_cast
        linarith
      · push_cast
        linarith
  case true.true =>
    show RoundsEven (m + 1) _
    refine ⟨?_, ?_, fun _ => ⟨?_, ?_⟩⟩
    all_goals
      push_cast
      linarith

/-- A number with nothing cut off stands for itself. -/
theorem stands_exact (n : Nat) : Stands (.ofMantissaAndAccuracy n .exact) n := by
  refine ⟨⟨0, le_rfl, one_pos, ?_, ?_⟩⟩
  · exact iff_of_false Bool.false_ne_true (lt_irrefl _)
  · show (n : ℚ) = n + (((false.toNat : Nat) : ℚ) + 0) / 2
    norm_num

/-- What a division leaves over is behind the mantissa. -/
theorem stands_fraction (n : Nat) {a b : Nat} (h : a < b) :
    Stands (.ofMantissaAndAccuracy n (accuracyOfFraction a b)) (n + (a : ℚ) / b) := by
  have hb : (0 : ℚ) < b := Nat.cast_pos.mpr (by omega)
  unfold accuracyOfFraction
  split_ifs with hzero
  · rw [hzero, Nat.cast_zero, zero_div, add_zero]
    exact stands_exact n
  · have ha : (0 : ℚ) < (a : ℚ) / b := div_pos (Nat.cast_pos.mpr (by omega)) hb
    have hlt : (a : ℚ) / b < 1 := (div_lt_one hb).mpr (Nat.cast_lt.mpr h)
    rcases Nat.lt_trichotomy (2 * a) b with hlow | heq | hhigh
    · have hhalf : 2 * ((a : ℚ) / b) < 1 := by
        rw [← mul_div_assoc, div_lt_one hb]
        exact_mod_cast hlow
      rw [Nat.compare_eq_lt.mpr hlow]
      refine ⟨⟨2 * ((a : ℚ) / b), by linarith, hhalf, ?_, ?_⟩⟩
      · exact ⟨fun _ => by linarith, fun _ => rfl⟩
      · show _ = (n : ℚ) + (((false.toNat : Nat) : ℚ) + _) / 2
        rw [Bool.toNat_false, Nat.cast_zero]
        ring
    · have hhalf : (a : ℚ) / b = 1 / 2 := by
        rw [div_eq_div_iff hb.ne' two_ne_zero]
        have : (2 * a : ℚ) = b := by exact_mod_cast heq
        linarith
      rw [Nat.compare_eq_eq.mpr heq, hhalf]
      refine ⟨⟨0, le_rfl, one_pos, ?_, ?_⟩⟩
      · exact iff_of_false Bool.false_ne_true (lt_irrefl _)
      · show _ = (n : ℚ) + (((true.toNat : Nat) : ℚ) + _) / 2
        rw [Bool.toNat_true, Nat.cast_one]
        ring
    · have hhalf : 1 < 2 * ((a : ℚ) / b) := by
        rw [← mul_div_assoc, one_lt_div hb]
        exact_mod_cast hhigh
      rw [Nat.compare_eq_gt.mpr hhigh]
      refine ⟨⟨2 * ((a : ℚ) / b) - 1, by linarith, by linarith, ?_, ?_⟩⟩
      · exact ⟨fun _ => by linarith, fun _ => rfl⟩
      · show _ = (n : ℚ) + (((true.toNat : Nat) : ℚ) + _) / 2
        rw [Bool.toNat_true, Nat.cast_one]
        ring

/-! ## Rounding -/

/-- A normal significand has its highest bit set. -/
theorem log2_eq_of_normal {m : Nat} (hlow : 2 ^ 52 ≤ m) (hhigh : m < 2 ^ 53) : m.log2 = 52 :=
  (Nat.log2_eq_iff (by omega)).mpr ⟨hlow, hhigh⟩

/-- The last place at which a number with this first place is rounded. -/
theorem targetExponent_eq (M : Nat) (e : Int) :
    Format.binary64.targetExponent (totalExponent M e)
      = max ((M.log2 : Int) + e - 52) leastExponent := by
  show max ((M.log2 : Int) + 1 + e - 53) (-1074) = max ((M.log2 : Int) + e - 52) (-1074)
  congr 1
  omega

/-- A mantissa that has all its places is shifted to its last place, and stands for the same
number there. -/
theorem shiftToTargetExponent_spec {M : Nat} {e : Int} {accuracy : Accuracy} {v : ℚ}
    (hM : 2 ^ 52 ≤ M) (h : Stands (.ofMantissaAndAccuracy M accuracy) (v / 2 ^ e)) :
    let shifted := shiftToTargetExponent Format.binary64 M e accuracy
    shifted.2 = max ((M.log2 : Int) + e - 52) leastExponent
      ∧ Stands shifted.1 (v / 2 ^ shifted.2) := by
  -- All its places are there, so it is never shifted to the left.
  have hlog : 52 ≤ M.log2 := (Nat.le_log2 (by omega)).mpr hM
  have hplace : e + ((max ((M.log2 : Int) + e - 52) leastExponent - e).toNat : Int)
      = max ((M.log2 : Int) + e - 52) leastExponent := by
    omega
  unfold shiftToTargetExponent shiftToExponent
  dsimp only
  rw [targetExponent_eq]
  refine ⟨hplace, ?_⟩
  have hshift := h.shiftRight (max ((M.log2 : Int) + e - 52) leastExponent - e).toNat
  rwa [div_div, ← zpow_natCast, ← zpow_add₀ two_ne_zero] at hshift

/-- The size of a number by the first place of its mantissa. -/
theorem Stands.size {M : Nat} {e : Int} {accuracy : Accuracy} {v : ℚ} (hM : 0 < M)
    (h : Stands (.ofMantissaAndAccuracy M accuracy) (v / 2 ^ e)) :
    (2 : ℚ) ^ ((M.log2 : Int) + e) ≤ v ∧ v < 2 ^ ((M.log2 : Int) + e + 1) := by
  have hmantissa : (ExtendedMantissa.ofMantissaAndAccuracy M accuracy).mantissa = M := by
    unfold ExtendedMantissa.ofMantissaAndAccuracy
    split
    all_goals rfl
  have hlow := h.mantissa_le
  have hhigh := h.lt_mantissa_succ
  rw [hmantissa] at hlow hhigh
  have hpow : 2 ^ M.log2 ≤ M := Nat.log2_self_le hM.ne'
  have hpow' : M + 1 ≤ 2 ^ (M.log2 + 1) := Nat.lt_log2_self
  have hcast : (2 : ℚ) ^ (M.log2 : Int) ≤ M := by
    rw [zpow_natCast]
    exact_mod_cast hpow
  have hcast' : (M : ℚ) + 1 ≤ 2 ^ ((M.log2 : Int) + 1) := by
    rw [← Int.natCast_succ, zpow_natCast]
    exact_mod_cast hpow'
  constructor
  · rw [zpow_add₀ two_ne_zero, ← le_div_iff₀ (two_zpow_pos e)]
    linarith
  · rw [show (M.log2 : Int) + e + 1 = (M.log2 : Int) + 1 + e by omega, zpow_add₀ two_ne_zero,
      ← div_lt_iff₀ (two_zpow_pos e)]
    linarith

section

variable {m : Nat} {q : Int} {v : ℚ}

/-- A mantissa in its place stays as it is; one that was rounded up to the carry moves by a
place. -/
theorem shiftToTargetExponent_exact (hc : Canonical m q) (hnormal : 2 ^ 52 ≤ m) :
    shiftToTargetExponent Format.binary64 m q .exact = (.ofMantissaAndAccuracy m .exact, q) := by
  have hplace : Format.binary64.targetExponent (totalExponent m q) = q := by
    have hleast := hc.least
    rw [targetExponent_eq, log2_eq_of_normal hnormal hc.bound]
    omega
  unfold shiftToTargetExponent shiftToExponent
  dsimp only
  rw [hplace, Int.sub_self, Int.toNat_zero, Int.natCast_zero, Int.add_zero]
  rfl

/-- A significand that rounding made too large moves up by one place. -/
theorem shiftToTargetExponent_carry (hleast : leastExponent ≤ q) :
    shiftToTargetExponent Format.binary64 (2 ^ 53) (q - 1) .exact
      = (.ofMantissaAndAccuracy (2 ^ 52) .exact, q) := by
  have hlog : (2 ^ 53 : Nat).log2 = 53 := by decide
  have hplace : Format.binary64.targetExponent (totalExponent (2 ^ 53) (q - 1)) = q := by
    rw [targetExponent_eq, hlog]
    omega
  unfold shiftToTargetExponent shiftToExponent
  dsimp only
  rw [hplace, Int.sub_sub_self, Int.toNat_one, Int.natCast_one, Int.sub_add_cancel]
  rfl

/-- **A number is rounded to the double that is nearest to it**, from any mantissa that has all
its places. -/
theorem roundWithAccuracy_eq (hc : Canonical m q) (hnormal : 2 ^ 52 ≤ m) (h : RoundsTo m q v)
    {M : Nat} {e : Int} {accuracy : Accuracy} (hM : 2 ^ 52 ≤ M)
    (hv : Stands (.ofMantissaAndAccuracy M accuracy) (v / 2 ^ e)) (s : Sign) :
    roundWithAccuracy Format.binary64 s M e accuracy = .finite s m q (by omega) := by
  obtain ⟨hlow, hhigh⟩ := hv.size (by omega)
  obtain ⟨hplace, hshifted⟩ := shiftToTargetExponent_spec hM hv
  have hfinal : shiftToTargetExponent Format.binary64
      (shiftToTargetExponent Format.binary64 M e accuracy).1.roundedMantissa
      (shiftToTargetExponent Format.binary64 M e accuracy).2 .exact
      = (.ofMantissaAndAccuracy m .exact, q) := by
    -- Rounding up may carry into a place of its own; then a second shift takes it back.
    rcases h.rounded hc hlow hhigh with ⟨hq, hround⟩ | ⟨hq, hpower, hround⟩
    · rw [hplace, hq] at hshifted ⊢
      rw [hshifted.roundsEven.unique hround]
      exact shiftToTargetExponent_exact hc hnormal
    · rw [hplace, hq] at hshifted ⊢
      rw [hshifted.roundsEven.unique hround, hpower]
      exact shiftToTargetExponent_carry hc.least
  unfold roundWithAccuracy
  dsimp only
  split
  next hzero =>
    rw [hfinal] at hzero
    have hm : m = 0 := hzero
    omega
  next =>
    simp only [hfinal]
    rfl

end

/-! ## Packing -/

/-- A sign as the library has it. -/
def signOf (negative : Bool) : Sign :=
  if negative then .negative else .positive

theorem toNat_signOf (negative : Bool) : (signOf negative).toBitVec.toNat = negative.toNat := by
  cases negative
  all_goals rfl

/-- A double as the library unpacks it. -/
def unpacked (x : Float) : Float.Model.UnpackedFloat :=
  unpack Format.binary64 (bitsOf x.toBits)

/-- The bits of a number. -/
def packed (u : Float.Model.UnpackedFloat) : UInt64 :=
  UInt64.ofBitVec (pack Format.binary64 u)

/-- The word of a sign and a pattern. -/
def wordOf (negative : Bool) (pattern : Nat) : Nat :=
  if negative then 2 ^ 63 + pattern else pattern

/-- Packing puts sign, exponent and significand side by side. -/
theorem toNat_packComponents (s : Sign) (e : BitVec 11) (f : BitVec 52) :
    (packComponents Format.binary64 s e f).toNat
      = s.toBitVec.toNat * 2 ^ 63 + e.toNat * 2 ^ 52 + f.toNat := by
  have he : e.toNat < 2 ^ 11 := e.isLt
  have hf : f.toNat < 2 ^ 52 := f.isLt
  unfold packComponents
  rw [BitVec.toNat_append, BitVec.toNat_append, ← Nat.shiftLeft_add_eq_or_of_lt hf,
    ← Nat.shiftLeft_add_eq_or_of_lt he, Nat.shiftLeft_eq, Nat.shiftLeft_eq]
  omega

section

variable {m : Nat} {q : Int}

/-- A sign and a pattern fit into a word. -/
theorem wordOf_lt (hc : Canonical m q) (negative : Bool) :
    wordOf negative (patternOf m q) < 2 ^ 64 := by
  have hpattern := hc.patternOf_lt
  unfold infinityBits at hpattern
  unfold wordOf
  split_ifs
  all_goals omega

/-- The bits of a double that is given by a sign and a pattern. -/
theorem bitsOf_ofPattern (hc : Canonical m q) (negative : Bool) :
    (bitsOf (ofPattern negative (patternOf m q)).toBits).toNat
      = wordOf negative (patternOf m q) := by
  have hpattern := hc.patternOf_lt
  unfold infinityBits at hpattern
  have hword := toNat_bitsOf_ofNat (wordOf_lt hc negative)
  have hbits : (ofPattern negative (patternOf m q)).toBits
      = UInt64.ofNat (wordOf negative (patternOf m q)) := by
    refine toBits_ofBits (isNaNBits_eq_false ?_)
    show (bitsOf (UInt64.ofNat (wordOf negative (patternOf m q)))).toNat / 2 ^ 52 % 2 ^ 11 ≠ 2047
    rw [hword]
    unfold wordOf
    split_ifs
    all_goals omega
  rw [hbits, hword]

/-- A number with all its places is packed into its pattern. -/
theorem eq_ofPattern_of_packed (hc : Canonical m q) (hnormal : 2 ^ 52 ≤ m) {x : Float}
    {negative : Bool} (h : x.toBits = packed (.finite (signOf negative) m q (by omega))) :
    x = ofPattern negative (patternOf m q) := by
  have hleast := hc.least
  have hmost := hc.most
  have hbound := hc.bound
  unfold leastExponent at hleast
  have hbias : (q + (Format.binary64.exponentBias : Nat) + (52 : Nat)).toNat
      = (q + 1075).toNat := by
    show (q + (1023 : Nat) + (52 : Nat)).toNat = _
    omega
  apply Float.toBits_inj.mp
  apply UInt64.toNat_inj.mp
  show _ = (bitsOf (ofPattern negative (patternOf m q)).toBits).toNat
  rw [h, bitsOf_ofPattern hc negative]
  show (pack Format.binary64 _).toNat = _
  unfold pack
  dsimp only
  rw [hbias, log2_eq_of_normal hnormal hbound, if_neg (by omega),
    if_pos (show 52 + 1 = Format.binary64.mantissaBits from rfl), toNat_packComponents,
    BitVec.toNat_ofNat, BitVec.toNat_ofNat, toNat_signOf]
  unfold wordOf patternOf leastExponent
  cases negative with
  | false =>
    rw [Bool.toNat_false, if_neg Bool.false_ne_true]
    omega
  | true =>
    rw [Bool.toNat_true, if_pos rfl]
    omega

/-- The sign of a word stands in its first bit. -/
theorem ofBitVec_unpackSign {b : Bits} {negative : Bool} {pattern : Nat}
    (hpattern : pattern < 2 ^ 63) (h : b.toNat = wordOf negative pattern) :
    Sign.ofBitVec (unpackSign b) = signOf negative := by
  unfold wordOf at h
  have hbit : (unpackSign b).toNat = negative.toNat := by
    rw [unpackSign_toNat, h]
    cases negative with
    | false =>
      rw [if_neg Bool.false_ne_true]
      show _ = 0
      omega
    | true =>
      rw [if_pos rfl]
      show _ = 1
      omega
  have hvec : unpackSign b = BitVec.ofBool negative := by
    apply BitVec.eq_of_toNat_eq
    rw [hbit]
    cases negative
    all_goals rfl
  rw [hvec]
  cases negative
  all_goals rfl

/-- And is unpacked from it. -/
theorem unpacked_ofPattern (hc : Canonical m q) (hnormal : 2 ^ 52 ≤ m) (negative : Bool) :
    unpacked (ofPattern negative (patternOf m q))
      = .finite (signOf negative) m q (by omega) := by
  have hleast := hc.least
  have hmost := hc.most
  have hbound := hc.bound
  have hword := bitsOf_ofPattern hc negative
  have hsign := ofBitVec_unpackSign (hc.patternOf_lt.trans (by decide)) hword
  unfold leastExponent at hleast
  unfold unpacked
  generalize bitsOf (ofPattern negative (patternOf m q)).toBits = b at hword hsign ⊢
  unfold wordOf patternOf leastExponent at hword
  have hexponent : (unpackExponent b).toNat = (q + 1075).toNat := by
    rw [unpackExponent_toNat, hword]
    split_ifs
    all_goals omega
  have hmantissa : (unpackMantissa b).toNat = m - 2 ^ 52 := by
    rw [unpackMantissa_toNat, hword]
    split_ifs
    all_goals omega
  have hfinite : unpackExponent b ≠ -1#11 := by
    intro hall
    rw [hall] at hexponent
    have : 2047 = (q + 1075).toNat := hexponent
    omega
  have hnonzero : unpackExponent b ≠ 0#11 := by
    intro hall
    rw [hall] at hexponent
    have : 0 = (q + 1075).toNat := hexponent
    omega
  unfold unpack
  dsimp only
  rw [if_neg hfinite, if_neg hnonzero]
  have hfull : (1#1 ++ unpackMantissa b).toNat = m := by
    rw [BitVec.toNat_append, ← Nat.shiftLeft_add_eq_or_of_lt (unpackMantissa b).isLt, hmantissa]
    show 1 <<< 52 + (m - 2 ^ 52) = m
    rw [Nat.shiftLeft_eq]
    omega
  have hplace : ((unpackExponent b).toNat : Int)
      - ((Format.binary64.exponentBias : Nat) + (52 : Nat)) = q := by
    rw [hexponent]
    show ((q + 1075).toNat : Int) - ((1023 : Nat) + (52 : Nat)) = q
    omega
  simp only [Float.Model.UnpackedFloat.finite.injEq]
  exact ⟨hsign, hfull, hplace⟩

/-- The parts that a pattern was made of. -/
theorem parts_ofPattern (hc : Canonical m q) (negative : Bool) :
    parts (ofPattern negative (patternOf m q)) = .finite negative m q := by
  have hleast := hc.least
  have hmost := hc.most
  have hbound := hc.bound
  have hword : (ofPattern negative (patternOf m q)).toBits.toNat
      = wordOf negative (patternOf m q) := bitsOf_ofPattern hc negative
  have hsign : decide (2 ^ 63 ≤ wordOf negative (patternOf m q)) = negative := by
    have hpattern := hc.patternOf_lt
    unfold infinityBits at hpattern
    cases negative with
    | false => exact decide_eq_false (by unfold wordOf; rw [if_neg Bool.false_ne_true]; omega)
    | true => exact decide_eq_true (by unfold wordOf; rw [if_pos rfl]; omega)
  have hexponent : wordOf negative (patternOf m q) / 2 ^ 52 % 2 ^ 11
      = if m < 2 ^ 52 then 0 else (q + 1075).toNat := by
    have hnormal := hc.normal
    unfold wordOf patternOf leastExponent at *
    split_ifs
    all_goals omega
  have hmantissa : wordOf negative (patternOf m q) % 2 ^ 52
      = if m < 2 ^ 52 then m else m - 2 ^ 52 := by
    unfold wordOf patternOf
    split_ifs
    all_goals omega
  unfold parts
  dsimp only
  rw [hword, hsign, hexponent, hmantissa]
  unfold leastExponent at hleast
  by_cases hsmall : m < 2 ^ 52
  · have hq : q = leastExponent := hc.normal.resolve_left (by omega)
    rw [if_pos hsmall, if_pos hsmall, if_neg (by decide), if_pos rfl, hq]
  · rw [if_neg hsmall, if_neg hsmall, if_neg (by omega), if_neg (by omega)]
    congr 1
    · omega
    · omega

theorem unpacked_zero (negative : Bool) :
    unpacked (ofPattern negative 0) = .zero (signOf negative) := by
  cases negative
  all_goals rfl

/-- Only zero is packed as zero. -/
theorem eq_zero_of_packed {x : Float} {negative : Bool}
    (h : x.toBits = packed (.zero (signOf negative))) : x = ofPattern negative 0 := by
  apply Float.toBits_inj.mp
  rw [h]
  cases negative
  all_goals rfl

end

end PoissonFactor.Decimal
