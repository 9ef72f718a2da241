import Mathlib
import PoissonFactor.Decimal.Binary

/-!
# Doubles and their bits

The bits of a double are a sign, an exponent and a mantissa. The opposite of a number has the same
bits but for the sign (`Decimal.toBits_neg`), so

> `Decimal.neg_ofPattern`: with a minus sign in front, the double of a pattern becomes that of the
> same pattern with a sign,
> `Decimal.eq_ofPattern`: a finite double is that of the pattern its parts have.

The library packs numbers into bits and unpacks them again, and knows that these are inverse to each
other except where bits stand for no number.
-/

namespace PoissonFactor.Decimal

open Float.Model (Format)
open Float.Model.UnpackedFloat

/-! ## Three parts -/

/-- The bits of a double. -/
abbrev Bits : Type := BitVec Format.binary64.numBits

/-- A word as the bits of a double. -/
abbrev bitsOf (a : UInt64) : Bits := a.toBitVec

/-- The exponent is in the eleven bits below the sign. -/
theorem unpackExponent_toNat (b : Bits) :
    (unpackExponent b).toNat = b.toNat / 2 ^ 52 % 2 ^ 11 := by
  simp [unpackExponent, Nat.shiftRight_eq_div_pow]

/-- The significand is in the lowest bits. -/
theorem unpackMantissa_toNat (b : Bits) : (unpackMantissa b).toNat = b.toNat % 2 ^ 52 := by
  simp [unpackMantissa]

/-- The sign is the highest bit. -/
theorem unpackSign_toNat (b : Bits) : (unpackSign b).toNat = b.toNat / 2 ^ 63 := by
  have hb : b.toNat < 2 ^ 64 := b.isLt
  simp [unpackSign, Nat.shiftRight_eq_div_pow]
  omega

/-- Bits are the bits of a number or of infinity unless their exponent is the greatest. -/
theorem isNaNBits_eq_false {b : Bits} (h : b.toNat / 2 ^ 52 % 2 ^ 11 ≠ 2047) :
    isNaNBits b = false := by
  refine decide_eq_false fun hnone => ?_
  have hexponent := congrArg BitVec.toNat hnone.1
  rw [unpackExponent_toNat] at hexponent
  exact h hexponent

/-- The bits with the other sign. -/
def flipSign (b : Bits) : Bits :=
  packComponents Format.binary64 (-Sign.ofBitVec (unpackSign b)) (unpackExponent b)
    (unpackMantissa b)

/-- Negating flips the highest bit. -/
theorem neg_unpack (b : Bits) :
    (unpack Format.binary64 b).neg = unpack Format.binary64 (flipSign b) := by
  unfold flipSign unpack
  simp only [unpackSign_packComponents, unpackExponent_packComponents,
    unpackMantissa_packComponents, Sign.ofBitVec_toBitVec]
  repeat' split
  all_goals rfl

theorem isNaNBits_flipSign (b : Bits) : isNaNBits (flipSign b) = isNaNBits b := by
  unfold flipSign isNaNBits
  rw [unpackExponent_packComponents, unpackMantissa_packComponents]

/-- Bits with the same exponent and mantissa and with the two signs. -/
theorem flipSign_eq {b b' : Bits} (hexponent : unpackExponent b = unpackExponent b')
    (hmantissa : unpackMantissa b = unpackMantissa b') (hsign : unpackSign b = 0#1)
    (hsign' : unpackSign b' = 1#1) : flipSign b = b' := by
  have hparts := packComponents_unpackSign_unpackExponent_unpackMantissa b'
  rw [hsign'] at hparts
  unfold flipSign
  rw [hexponent, hmantissa, hsign]
  exact hparts

/-! ## Words -/

/-- Bits are kept unless they are no number. -/
theorem toBits_ofBits {a : UInt64} (h : isNaNBits (bitsOf a) = false) :
    (Float.ofBits a).toBits = a := by
  have hbits : (Float.ofBits a).toBits
      = UInt64.ofBitVec (pack Format.binary64 (unpack Format.binary64 (bitsOf a))) := rfl
  rw [hbits, pack_unpack, h]
  rfl

/-- A minus sign turns the sign of the bits around. -/
theorem toBits_neg {x : Float} (h : isNaNBits (bitsOf x.toBits) = false) :
    (-x).toBits = UInt64.ofBitVec (flipSign (bitsOf x.toBits)) := by
  have hbits : (-x).toBits
      = UInt64.ofBitVec (pack Format.binary64 (unpack Format.binary64 (bitsOf x.toBits)).neg) := rfl
  rw [hbits, neg_unpack, pack_unpack, isNaNBits_flipSign, h]
  rfl

theorem toNat_bitsOf_ofNat {n : Nat} (h : n < 2 ^ 64) :
    (bitsOf (UInt64.ofNat n)).toNat = n := by
  rw [UInt64.toNat_toBitVec, UInt64.toNat_ofNat']
  exact Nat.mod_eq_of_lt h

/-- With a minus sign in front, a pattern of a finite number gets a sign. -/
theorem neg_ofPattern {pattern : Nat} (h : pattern < infinityBits) :
    -ofPattern false pattern = ofPattern true pattern := by
  unfold infinityBits at h
  have hplain := toNat_bitsOf_ofNat (n := pattern) (by omega)
  have hsigned := toNat_bitsOf_ofNat (n := 2 ^ 63 + pattern) (by omega)
  have hnumber : isNaNBits (bitsOf (UInt64.ofNat pattern)) = false :=
    isNaNBits_eq_false (by omega)
  have hnumber' : isNaNBits (bitsOf (UInt64.ofNat (2 ^ 63 + pattern))) = false :=
    isNaNBits_eq_false (by omega)
  have hbits : (ofPattern false pattern).toBits = UInt64.ofNat pattern := toBits_ofBits hnumber
  have hbits' : (ofPattern true pattern).toBits = UInt64.ofNat (2 ^ 63 + pattern) :=
    toBits_ofBits hnumber'
  have hflip : flipSign (bitsOf (UInt64.ofNat pattern))
      = bitsOf (UInt64.ofNat (2 ^ 63 + pattern)) := by
    refine flipSign_eq (BitVec.eq_of_toNat_eq ?_) (BitVec.eq_of_toNat_eq ?_)
      (BitVec.eq_of_toNat_eq ?_) (BitVec.eq_of_toNat_eq ?_)
    · rw [unpackExponent_toNat, unpackExponent_toNat, hplain, hsigned]
      omega
    · rw [unpackMantissa_toNat, unpackMantissa_toNat, hplain, hsigned]
      omega
    · rw [unpackSign_toNat, hplain]
      show _ = 0
      omega
    · rw [unpackSign_toNat, hsigned]
      show _ = 1
      omega
  apply Float.toBits_inj.mp
  rw [toBits_neg (hbits ▸ hnumber), hbits, hbits', hflip]

/-! ## Parts and patterns -/

/-- The parts of a finite double without its sign: a mantissa that uses all its places, unless the
exponent is the least. -/
structure Canonical (m : Nat) (q : Int) : Prop where
  bound : m < 2 ^ 53
  least : leastExponent ≤ q
  most : q ≤ 971
  normal : 2 ^ 52 ≤ m ∨ q = leastExponent

/-- The pattern of a finite double with these parts. -/
def patternOf (m : Nat) (q : Int) : Nat :=
  (q - leastExponent).toNat * 2 ^ 52 + m

/-- The patterns of finite doubles are below that of infinity. -/
theorem Canonical.patternOf_lt {m : Nat} {q : Int} (h : Canonical m q) :
    patternOf m q < infinityBits := by
  obtain ⟨hm, hlow, hhigh, hnormal⟩ := h
  unfold patternOf infinityBits leastExponent at *
  omega

/-- The sign of a finite double is its first bit, and its pattern is made of the others. -/
theorem parts_eq_finite {x : Float} {negative : Bool} {m : Nat} {q : Int}
    (h : parts x = .finite negative m q) : negative = decide (2 ^ 63 ≤ x.toBits.toNat)
      ∧ Canonical m q ∧ patternOf m q = x.toBits.toNat % 2 ^ 63 := by
  have hbits : x.toBits.toNat < 2 ^ 64 := x.toBits.toNat_lt
  unfold parts at h
  dsimp only at h
  split at h
  next =>
    split at h
    · cases h
    · cases h
  next hfinite =>
    split at h
    next hzero =>
      cases h
      refine ⟨rfl, ⟨by omega, Int.le_refl _, by decide, Or.inr rfl⟩, ?_⟩
      unfold patternOf
      omega
    next hzero =>
      cases h
      refine ⟨rfl, ⟨by omega, ?_, by omega, Or.inl (by omega)⟩, ?_⟩
      · unfold leastExponent
        omega
      · unfold patternOf leastExponent
        omega

/-- A finite double is that of the pattern its parts have. -/
theorem eq_ofPattern {x : Float} {negative : Bool} {m : Nat} {q : Int}
    (h : parts x = .finite negative m q) :
    Canonical m q ∧ x = ofPattern negative (patternOf m q) := by
  obtain ⟨hsign, hcanonical, hpattern⟩ := parts_eq_finite h
  have hbits : x.toBits.toNat < 2 ^ 64 := x.toBits.toNat_lt
  have hword : UInt64.ofNat (if negative then 2 ^ 63 + patternOf m q else patternOf m q)
      = x.toBits := by
    apply UInt64.toNat_inj.mp
    rw [UInt64.toNat_ofNat', hpattern, hsign]
    by_cases hnegative : 2 ^ 63 ≤ x.toBits.toNat
    · rw [decide_eq_true hnegative, if_pos rfl]
      omega
    · rw [decide_eq_false hnegative, if_neg Bool.false_ne_true]
      omega
  unfold ofPattern
  rw [hword, Float.ofBits_toBits]
  exact ⟨hcanonical, rfl⟩

end PoissonFactor.Decimal
