import PoissonFactor.Proofs.Literal.ReadBack
import PoissonFactor.Proofs.Table.NumberText

/-!
# Doubles written into a table

The shortest digits of a double are written by position or with an exponent (`NumberText.ofDigits`).
The text always has a point or an exponent, so that it is not taken for an integer, and it leads
back to the double:

> `double?_plain`: the number that is written for a finite double is nearer to it than to others,
> `decimal?_plain`: and a table reads it so, if the double is nearest to one of fifteen digits.

The reader of tables takes up all the digits of such a text, which are no more than fifteen and a
zero, and scales them once. That makes the double nearest to what the digits stand for, which is the
decimal (`Decimal.Short.shortest_spec`).
-/

namespace PoissonFactor

open Decimal (Digits nearest IsShort)
open Literal (AllDigits)
open Numeral (digitsValue)

namespace NumberText

/-! ## The text of digits -/

variable {d : Digits} {mark : Mark}

/-- All digits before the point, with zeros behind them, and a zero behind the point. -/
def padded (d : Digits) (mark : Mark) : NumberText where
  mark
  whole := Decimal.digitChars d.digits ++ List.replicate d.exponent.toNat '0'
  fraction := some ['0']
  exponent := none
  allDigits := ((Literal.allDigits_toDigits _).append (Literal.allDigits_replicate _)).append
    (Literal.allDigits_replicate 1)
  nonempty := List.append_ne_nil_of_right_ne_nil _ (List.cons_ne_nil _ _)

/-- Digits with as many zeros in front that the point has one before it. -/
def aligned (d : Digits) : List Char :=
  List.replicate ((-d.exponent).toNat + 1 - (Decimal.digitChars d.digits).length) '0'
    ++ Decimal.digitChars d.digits

theorem allDigits_aligned (d : Digits) : AllDigits (aligned d) :=
  (Literal.allDigits_replicate _).append (Literal.allDigits_toDigits _)

/-- Zeros in front do not change what digits stand for. -/
theorem digitsValue_aligned (d : Digits) : digitsValue (aligned d) = d.digits := by
  unfold aligned
  rw [Numeral.digitsValue_replicate_append]
  exact Numeral.digitsValue_toDigits _

/-- With them there are more digits than places. -/
theorem lt_length_aligned (d : Digits) : (-d.exponent).toNat < (aligned d).length := by
  unfold aligned
  rw [List.length_append, List.length_replicate]
  omega

/-- Digits with the point between them. -/
def pointedIn (d : Digits) (mark : Mark) : NumberText where
  mark
  whole := (aligned d).take ((aligned d).length - (-d.exponent).toNat)
  fraction := some ((aligned d).drop ((aligned d).length - (-d.exponent).toNat))
  exponent := none
  allDigits := by
    rw [Option.getD_some, List.take_append_drop]
    exact allDigits_aligned d
  nonempty := by
    rw [Option.getD_some, List.take_append_drop]
    exact List.length_pos_iff.mp (Nat.zero_lt_of_lt (lt_length_aligned d))

/-- What stands behind a point, which is left out if there is nothing. -/
def behind (cs : List Char) : Option (List Char) :=
  if cs.isEmpty then none else some cs

/-- Digits that are left out are none. -/
theorem getD_behind (cs : List Char) : (behind cs).getD [] = cs := by
  cases cs
  all_goals rfl

/-- One digit before the point, the others behind it, and an exponent. -/
def powered (d : Digits) (mark : Mark) : NumberText where
  mark
  whole := (Decimal.digitChars d.digits).take 1
  fraction := behind ((Decimal.digitChars d.digits).drop 1)
  exponent := some (d.exponent + ((Decimal.digitChars d.digits).drop 1).length)
  allDigits := by
    rw [getD_behind, List.take_append_drop]
    exact Literal.allDigits_toDigits d.digits
  nonempty := by
    rw [getD_behind, List.take_append_drop]
    exact Nat.toDigits_ne_nil

/-- The decimal exponent that decides how digits are written. -/
def order (d : Digits) : Int :=
  d.exponent + (Decimal.digitChars d.digits).length - 1

/-- Digits with a sign, as they are written. -/
def ofDigits (d : Digits) (mark : Mark) : NumberText :=
  if -4 ≤ order d ∧ order d < 16 then
    if 0 ≤ d.exponent then padded d mark else pointedIn d mark
  else powered d mark

/-- Large digits are written with zeros before their point. -/
theorem unsigned_padded (h : 0 ≤ d.exponent) :
    (padded d mark).unsigned = Decimal.positional true d := by
  unfold Decimal.positional
  dsimp only
  rw [if_pos h, if_pos rfl]
  rfl

/-- Digits with places are written with the point among them. -/
theorem unsigned_pointedIn (h : ¬ 0 ≤ d.exponent) :
    (pointedIn d mark).unsigned = Decimal.positional true d := by
  unfold Decimal.positional
  dsimp only
  rw [if_neg h]
  show _ ++ ('.' :: _ ++ []) = _
  rw [List.append_nil]
  rfl

/-- Digits far from the point are written with an exponent. -/
theorem unsigned_powered : (powered d mark).unsigned = Decimal.scientific d := by
  obtain ⟨c, rest, hcons⟩ := List.exists_cons_of_ne_nil
    (show Decimal.digitChars d.digits ≠ [] from Nat.toDigits_ne_nil)
  unfold unsigned pointed scale powered Decimal.scientific
  dsimp only
  rw [hcons]
  cases rest
  all_goals rfl

/-- **The text of digits** is a number with a point or an exponent. -/
theorem unsigned_ofDigits : (ofDigits d mark).unsigned = Decimal.plainStyle.digits d := by
  unfold ofDigits Decimal.Style.digits
  show _ = if -4 ≤ order d ∧ order d < 16 then _ else _
  split_ifs with hwithin hexponent
  · exact unsigned_padded hexponent
  · exact unsigned_pointedIn hexponent
  · exact unsigned_powered

theorem mark_ofDigits : (ofDigits d mark).mark = mark := by
  unfold ofDigits
  split_ifs
  all_goals rfl

/-- In all three ways there is a point or an exponent. -/
theorem isSome_ofDigits :
    (ofDigits d mark).fraction.isSome = true ∨ (ofDigits d mark).exponent.isSome = true := by
  unfold ofDigits
  split_ifs
  · exact Or.inl rfl
  · exact Or.inl rfl
  · exact Or.inr rfl

/-! ## What it stands for -/

/-- The number without its sign. -/
def value (t : NumberText) : ℚ :=
  (digitsValue (t.whole ++ t.places) : ℚ) * 10 ^ (t.exponent.getD 0 - t.places.length : Int)

/-- Digits and a zero behind the point are ten times the number. -/
theorem number_padded : digitsValue ((padded d mark).whole ++ (padded d mark).places)
    = d.digits * 10 ^ d.exponent.toNat * 10 := by
  show digitsValue (_ ++ _ ++ ['0']) = _
  rw [Numeral.digitsValue_concat, Numeral.digitsValue_append_replicate]
  exact congrArg (· * _ * 10) (Numeral.digitsValue_toDigits _)

/-- A point between the digits takes as many of them behind it as there are places. -/
theorem number_pointedIn (he : d.exponent < 0) (mark : Mark) :
    digitsValue ((pointedIn d mark).whole ++ (pointedIn d mark).places) = d.digits
      ∧ ((pointedIn d mark).exponent.getD 0 - (pointedIn d mark).places.length : Int)
        = d.exponent := by
  have hlong := lt_length_aligned d
  have hsplit : (pointedIn d mark).whole ++ (pointedIn d mark).places = aligned d :=
    List.take_append_drop _ _
  have hdrop : (pointedIn d mark).places.length = (-d.exponent).toNat := by
    show ((aligned d).drop _).length = _
    rw [List.length_drop]
    omega
  refine ⟨?_, ?_⟩
  · rw [hsplit, digitsValue_aligned]
  · rw [hdrop]
    show (0 : Int) - _ = _
    omega

/-- The exponent makes good for the digits behind the point. -/
theorem number_powered (d : Digits) (mark : Mark) :
    digitsValue ((powered d mark).whole ++ (powered d mark).places) = d.digits
      ∧ ((powered d mark).exponent.getD 0 - (powered d mark).places.length : Int) = d.exponent := by
  have hbehind : (powered d mark).places = (Decimal.digitChars d.digits).drop 1 := getD_behind _
  have hsplit : (powered d mark).whole ++ (powered d mark).places
      = Decimal.digitChars d.digits := by
    rw [hbehind]
    exact List.take_append_drop 1 _
  refine ⟨?_, ?_⟩
  · rw [hsplit]
    exact Numeral.digitsValue_toDigits d.digits
  · rw [hbehind]
    exact Int.add_sub_cancel _ _

/-- A zero behind the point changes nothing. -/
theorem value_padded (he : 0 ≤ d.exponent) : (padded d mark).value = d.value := by
  obtain ⟨e, he'⟩ : ∃ e : Nat, d.exponent = e := ⟨d.exponent.toNat, by omega⟩
  have hten : (10 : ℚ) ^ ((padded d mark).exponent.getD 0
      - (padded d mark).places.length : Int) = 10⁻¹ := rfl
  unfold value Digits.value
  rw [number_padded, hten, he', Int.toNat_natCast, zpow_natCast]
  push_cast
  ring

/-- **The text of digits stands for what they stand for.** -/
theorem value_ofDigits : (ofDigits d mark).value = d.value := by
  unfold ofDigits
  split_ifs with hwithin he
  · exact value_padded he
  · obtain ⟨hnumber, hscale⟩ := number_pointedIn (not_le.mp he) mark
    unfold value
    rw [hnumber, hscale]
    rfl
  · obtain ⟨hnumber, hscale⟩ := number_powered d mark
    unfold value
    rw [hnumber, hscale]
    rfl

/-- The double nearest to the shortest digits of a double is the double. -/
theorem double_ofDigits {m : Nat} {q : Int} (hc : Decimal.Canonical m q) :
    (ofDigits (Literal.digitsOf m q) mark).double
      = Decimal.ofPattern mark.isNegative (Decimal.patternOf m q) := by
  unfold double
  rw [mark_ofDigits]
  exact Literal.ofDecimal_eq_ofPattern hc value_ofDigits _

/-! ## Reading it -/

/-- A text is read as the double that is nearest to what digits stand for. -/
def IsRead (d : Digits) (t : NumberText) : Prop :=
  ∃ n k : Nat, Column.decimal? t.text = some (nearest t.mark.isNegative n (10 ^ k))
    ∧ (n : ℚ) / (10 ^ k : Nat) = d.value

/-- A number below a power of ten has no more digits than that tells. -/
theorem length_digitChars_le (h : d.digits < 10 ^ 15) :
    (Decimal.digitChars d.digits).length ≤ 15 :=
  (Nat.length_toDigits_le_iff (by decide) (by decide)).mpr h

/-- Digits read with a power of ten that divides them. -/
theorem value_div (h : d.exponent ≤ 0) :
    (d.digits : ℚ) / (10 ^ (-d.exponent).toNat : Nat) = d.value := by
  have hten : ((10 : Nat) : ℚ) = 10 := Nat.cast_ofNat
  unfold Digits.value
  rw [← hten, Decimal.zpow_of_nonpos h, div_eq_mul_inv]

/-- All digits are taken up, and they are divided by a power of ten. -/
theorem isRead_of_digitsValue {t : NumberText} (hlength : (t.whole ++ t.places).length ≤ 17)
    (hnumber : digitsValue (t.whole ++ t.places) = d.digits) (hfew : d.digits < 10 ^ 15)
    (he : d.exponent ≤ 0) (hplaces : -16 ≤ d.exponent)
    (hscale : t.exponent.getD 0 - t.places.length = d.exponent) : IsRead d t := by
  refine ⟨digitsValue (t.whole ++ t.places), (-d.exponent).toNat, ?_, ?_⟩
  · rw [decimal?_text]
    refine Decimal.readScaled?_of_lt t.allDigits hlength (hnumber ▸ hfew) ?_ (by omega) _
    show t.exponent.getD 0 - (t.places.length : Int) = _
    omega
  · rw [hnumber]
    exact value_div he

/-- Digits without places are written by position, as long as the text has no more than fifteen
before its point. -/
theorem order_of_nonneg (hzero : 0 < d.digits ∨ d.exponent = 0) (he : 0 ≤ d.exponent)
    (hvalue : d.digits * 10 ^ d.exponent.toNat < 10 ^ 15) : 0 ≤ order d ∧ order d < 15 := by
  have hfew : d.exponent.toNat < 15 := by
    rcases hzero with hpos | hnone
    · by_contra hlarge
      have hpow : 10 ^ 15 ≤ 10 ^ d.exponent.toNat := Nat.pow_le_pow_right (by decide) (by omega)
      exact absurd (hpow.trans (Nat.le_mul_of_pos_left _ hpos)) (by omega)
    · omega
  have hlength : (Decimal.digitChars d.digits).length ≤ 15 - d.exponent.toNat := by
    refine (Nat.length_toDigits_le_iff (by decide) (by omega)).mpr ?_
    have hsplit : 10 ^ 15 = 10 ^ (15 - d.exponent.toNat) * 10 ^ d.exponent.toNat := by
      rw [← Nat.pow_add, Nat.sub_add_cancel hfew.le]
    rw [hsplit] at hvalue
    exact Nat.lt_of_mul_lt_mul_right hvalue
  have hsome : 0 < (Decimal.digitChars d.digits).length := Nat.length_toDigits_pos
  unfold order
  omega

/-- Large digits are read with a zero that was not theirs. -/
theorem isRead_padded (hzero : 0 < d.digits ∨ d.exponent = 0) (he : 0 ≤ d.exponent)
    (hvalue : d.digits * 10 ^ d.exponent.toNat < 10 ^ 15) : IsRead d (padded d mark) := by
  have horder := order_of_nonneg hzero he hvalue
  unfold order at horder
  obtain ⟨whole, hwhole⟩ : ∃ whole, whole = (padded d mark).whole := ⟨_, rfl⟩
  have hall : AllDigits whole := hwhole ▸ (padded d mark).allDigits_whole
  have hnumber : digitsValue whole = d.digits * 10 ^ d.exponent.toNat := by
    rw [hwhole]
    show digitsValue (_ ++ _) = _
    rw [Numeral.digitsValue_append_replicate]
    exact congrArg (· * _) (Numeral.digitsValue_toDigits _)
  have hlength : whole.length ≤ 15 := by
    rw [hwhole]
    show (_ ++ _ : List Char).length ≤ 15
    rw [List.length_append, List.length_replicate]
    omega
  have hconcat : digitsValue (whole ++ ['0']) = d.digits * 10 ^ d.exponent.toNat * 10 := by
    rw [hwhole]
    exact number_padded
  -- The zero behind the point makes sixteen digits, which the reader still takes up exactly.
  obtain ⟨htaken, hexact⟩ := Decimal.takeUp_concat_zero hall (hnumber ▸ hvalue)
  refine ⟨digitsValue (whole ++ ['0']), 1, ?_, ?_⟩
  · rw [decimal?_text, ← hwhole]
    show Decimal.readScaled? mark.isNegative whole ['0'] 0 = _
    refine Decimal.readScaled?_eq ?_ htaken hexact ?_ rfl (by decide) _
    · rw [List.length_singleton]
      omega
    · omega
  · obtain ⟨e, he'⟩ : ∃ e : Nat, d.exponent = e := ⟨d.exponent.toNat, by omega⟩
    rw [hconcat]
    unfold Digits.value
    rw [he', Int.toNat_natCast, zpow_natCast]
    push_cast
    ring

/-- Digits with places are taken up together with the zeros in front. -/
theorem isRead_pointedIn (hfew : d.digits < 10 ^ 15) (he : d.exponent < 0)
    (hplaces : -16 ≤ d.exponent) : IsRead d (pointedIn d mark) := by
  have hlength := length_digitChars_le hfew
  have hsplit : (pointedIn d mark).whole ++ (pointedIn d mark).places = aligned d :=
    List.take_append_drop _ _
  have hroom : (aligned d).length ≤ 17 := by
    unfold aligned
    rw [List.length_append, List.length_replicate]
    omega
  obtain ⟨hnumber, hscale⟩ := number_pointedIn he mark
  exact isRead_of_digitsValue (hsplit ▸ hroom) hnumber hfew he.le hplaces hscale

/-- Digits with an exponent are taken up as they are. -/
theorem isRead_powered (hfew : d.digits < 10 ^ 15) (he : d.exponent < 0)
    (hplaces : -16 ≤ d.exponent) : IsRead d (powered d mark) := by
  have hlength := length_digitChars_le hfew
  have hsplit : (powered d mark).whole ++ (powered d mark).places
      = Decimal.digitChars d.digits := by
    show _ ++ (behind _).getD [] = _
    rw [getD_behind]
    exact List.take_append_drop 1 _
  obtain ⟨hnumber, hscale⟩ := number_powered d mark
  refine isRead_of_digitsValue ?_ hnumber hfew he.le hplaces hscale
  rw [hsplit]
  omega

/-- **Digits are read from their text**, if they are no more than fifteen and have no more than
sixteen places. -/
theorem isRead_ofDigits (hzero : 0 < d.digits ∨ d.exponent = 0) (hfew : d.digits < 10 ^ 15)
    (hplaces : -16 ≤ d.exponent) (hvalue : d.value < 10 ^ 15) : IsRead d (ofDigits d mark) := by
  have hnat : 0 ≤ d.exponent → d.digits * 10 ^ d.exponent.toNat < 10 ^ 15 := by
    intro he
    have hten : ((10 : Nat) : ℚ) = 10 := Nat.cast_ofNat
    unfold Digits.value at hvalue
    rw [← hten, Decimal.zpow_of_nonneg he] at hvalue
    exact_mod_cast hvalue
  unfold ofDigits
  split_ifs with hwithin he
  · exact isRead_padded hzero he (hnat he)
  · exact isRead_pointedIn hfew (by omega) hplaces
  · refine isRead_powered hfew ?_ hplaces
    by_contra he
    have horder := order_of_nonneg hzero (by omega) (hnat (by omega))
    omega

end NumberText

/-! ## Doubles -/

/-- The mark of a sign, with no plus. -/
def markOf (negative : Bool) : Mark :=
  if negative then .minus else .none

theorem isNegative_markOf (negative : Bool) : (markOf negative).isNegative = negative := by
  cases negative
  all_goals rfl

/-- A sign is written as its mark. -/
theorem text_markOf (negative : Bool) (cs : List Char) :
    (markOf negative).text ++ cs = Decimal.signed negative cs := by
  cases negative
  all_goals rfl

/-- A double is written as the number of its digits. -/
theorem toList_plain_eq {x : Float} {negative : Bool} {m : Nat} {q : Int}
    (h : Decimal.parts x = .finite negative m q) : (Decimal.plain x).toList
      = (NumberText.ofDigits (Literal.digitsOf m q) (markOf negative)).text := by
  rw [Literal.toList_plain h]
  unfold NumberText.text
  rw [NumberText.mark_ofDigits, NumberText.unsigned_ofDigits, text_markOf]

/-- **A finite double is written as a number**, which is no integer. -/
theorem exists_text_plain {x : Float} (h : Decimal.isFinite x = true) :
    ∃ t : NumberText, t.text = (Decimal.plain x).toList
      ∧ (t.fraction.isSome = true ∨ t.exponent.isSome = true) := by
  obtain ⟨negative, m, q, hparts⟩ := Literal.exists_parts h
  exact ⟨_, (toList_plain_eq hparts).symm, NumberText.isSome_ofDigits⟩

/-- **A finite double is read back from the text that is written for it.** -/
theorem double?_plain {x : Float} (h : Decimal.isFinite x = true) :
    Numeral.double? (Decimal.plain x).toList = some x := by
  obtain ⟨negative, m, q, hparts⟩ := Literal.exists_parts h
  obtain ⟨hc, hx⟩ := Decimal.eq_ofPattern hparts
  rw [toList_plain_eq hparts, NumberText.numeral_double?_text, NumberText.double_ofDigits hc,
    isNegative_markOf, hx]

/-- Zero is read back from its text. -/
theorem decimal?_plain_zero (negative : Bool) :
    Column.decimal? (Decimal.plain (Decimal.ofPattern negative 0)).toList
      = some (Decimal.ofPattern negative 0) := by
  have hc : Decimal.Canonical 0 Decimal.leastExponent := ⟨by decide, le_rfl, by decide, Or.inr rfl⟩
  have hzero : Digits.value ⟨0, 0⟩ = 0 := by norm_num [Digits.value]
  obtain ⟨n, k, hread, hvalue⟩ : NumberText.IsRead ⟨0, 0⟩
      (NumberText.ofDigits ⟨0, 0⟩ (markOf negative)) :=
    NumberText.isRead_ofDigits (Or.inr rfl) (by decide) (by decide) (by norm_num [hzero])
  have hnone : n = 0 := by
    rcases div_eq_zero_iff.mp (hvalue.trans hzero) with hnum | hden
    · exact_mod_cast hnum
    · exact absurd hden (by positivity)
  rw [hnone, Decimal.nearest_zero, NumberText.mark_ofDigits, isNegative_markOf] at hread
  rw [← hread]
  exact congrArg Column.decimal? (toList_plain_eq (Decimal.parts_ofPattern hc negative))

/-- **A short double is read back from its text in a table.** -/
theorem decimal?_plain {x : Float} (h : IsShort x) :
    Column.decimal? (Decimal.plain x).toList = some x := by
  obtain ⟨negative, n, k, hn, hk, rfl⟩ := h
  rcases Nat.eq_zero_or_pos n with rfl | hpos
  · rw [Decimal.nearest_zero]
    exact decimal?_plain_zero negative
  have hden : 0 < 10 ^ k := by positivity
  have hdenLe : 10 ^ k ≤ 10 ^ 40 := Nat.pow_le_pow_right (by decide) (by omega)
  have hvalue : (n : ℚ) / (10 ^ k : Nat) = Digits.value ⟨n, -(k : Int)⟩ := by
    have hdiv := NumberText.value_div (d := ⟨n, -(k : Int)⟩) (by show -(k : Int) ≤ 0; omega)
    rwa [Int.neg_neg, Int.toNat_natCast] at hdiv
  obtain ⟨m, q, hc, hnormal, hround⟩ :=
    (Decimal.inRange_div hpos hden (by omega) hdenLe).exists_roundsTo
  have hm : 0 < m := by omega
  have hshort : Decimal.Short m q ⟨n, -(k : Int)⟩ := ⟨hc, hnormal, hpos, hn, hvalue ▸ hround⟩
  -- The shortest digits have the same value, and are no more than those there were.
  obtain ⟨hsame, hdigits, hfew, hplaces⟩ := hshort.shortest_spec
  have hbound : (Decimal.shortest m q).value < 10 ^ 15 := by
    have hn' : (n : ℚ) < 10 ^ 15 := by exact_mod_cast hn
    rw [hsame, ← hvalue]
    exact (div_le_self (Nat.cast_nonneg n) (Nat.one_le_cast.mpr hden)).trans_lt hn'
  have hmost : -16 ≤ (Decimal.shortest m q).exponent :=
    le_trans (by omega : (-16 : Int) ≤ -(k : Int)) hplaces
  obtain ⟨n', k', hread, hvalue'⟩ :
      NumberText.IsRead (Decimal.shortest m q)
        (NumberText.ofDigits (Decimal.shortest m q) (markOf negative)) :=
    NumberText.isRead_ofDigits (Or.inl hdigits) (hfew.trans_lt hn) hmost hbound
  have hround' : Decimal.RoundsTo m q ((n' : ℚ) / (10 ^ k' : Nat)) := by
    rwa [hvalue', hsame, ← hvalue]
  rw [Decimal.nearest_eq hc hm (by positivity) hround', NumberText.mark_ofDigits,
    isNegative_markOf] at hread
  rw [Decimal.nearest_eq hc hm hden hround, toList_plain_eq (Decimal.parts_ofPattern hc negative),
    Literal.digitsOf, if_neg hm.ne']
  exact hread

end PoissonFactor
