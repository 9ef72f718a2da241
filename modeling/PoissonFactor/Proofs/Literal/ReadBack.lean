import PoissonFactor.Literal.Evaluate
import PoissonFactor.Proofs.Decimal.Bits
import PoissonFactor.Proofs.Literal.Quoted

/-!
# Values that are read back as they are shown

An integer, a finite double and a text are what their own text spells (`Literal.read_int`,
`Literal.read_float`, `Literal.read_showChars`). Only an integer can be too long for that, and a
text may have any code points, surrogates among them. A number in front of which a minus sign stands
is read without it first, and the sign is put in front of the value: `Decimal.neg_ofPattern` says
that this loses nothing, not even at zero.
-/

namespace PoissonFactor.Literal

open Decimal (Canonical patternOf ofPattern ofDecimal)
open Text (isBlank quoted)

/-! ## From words to values -/

section

variable [Text.CharacterNames] {cs : List Char} (hnul : '\x00' ∉ cs)
include hnul

/-- Words that are one constant or a sign with one have the value of that shape. -/
theorem read_of_tokens {ts : List Token} (ht : tokens cs = some ts)
    (hin : withinBrackets 0 ts = true) {e : Expr} (hwhole : whole (4 * ts.length + 8) ts = some e)
    {v : Value} (hv : evaluate e = .ok v) : read cs = .ok (some v) := by
  have hcontains : cs.contains '\x00' = false := by
    rw [← Bool.not_eq_true, List.contains_iff_mem]
    exact hnul
  have hparse : parse cs = some e := by
    unfold parse
    rw [ht]
    dsimp only
    rw [hcontains, hin, hwhole]
    rfl
  unfold read
  rw [hparse]
  dsimp only
  rw [hv]

/-- A single text is a literal. -/
theorem read_text {ps : List Text.Point} (ht : tokens cs = some [.text ps]) :
    read cs = .ok (some (.ofPoints ps)) :=
  read_of_tokens hnul ht rfl rfl rfl

/-- So is an integer, with a sign or without. -/
theorem read_integer {n : Nat} {negative : Bool}
    (ht : tokens cs = some (if negative then [.mark '-', .integer n] else [.integer n])) :
    read cs = .ok (some (.int (if negative then -n else n))) := by
  cases negative with
  | false => exact read_of_tokens hnul ht rfl rfl rfl
  | true => exact read_of_tokens hnul ht rfl rfl rfl

/-- So is a decimal, and its sign makes it negative. -/
theorem read_decimal {x : Float} {negative : Bool}
    (ht : tokens cs = some (if negative then [.mark '-', .decimal x] else [.decimal x])) :
    read cs = .ok (some (.float (if negative then -x else x))) := by
  cases negative with
  | false => exact read_of_tokens hnul ht rfl rfl rfl
  | true => exact read_of_tokens hnul ht rfl rfl rfl

end

/-! ## The characters of a number -/

/-- A text of plain characters. -/
def AllPlain (cs : List Char) : Prop :=
  ∀ c ∈ cs, IsPlain c

instance (cs : List Char) : Decidable (AllPlain cs) :=
  List.decidableBAll _ cs

/-- Plain texts can be put together. -/
theorem AllPlain.append {cs ds : List Char} (hcs : AllPlain cs) (hds : AllPlain ds) :
    AllPlain (cs ++ ds) :=
  fun c hc => (List.mem_append.mp hc).elim (hcs c) (hds c)

theorem AllPlain.cons {c : Char} {cs : List Char} (hc : IsPlain c) (hcs : AllPlain cs) :
    AllPlain (c :: cs) :=
  List.forall_mem_cons.mpr ⟨hc, hcs⟩

theorem isPlain_of_isDigit {c : Char} (h : c.isDigit = true) : IsPlain c := by
  obtain ⟨hlow, hhigh⟩ : 48 ≤ c.toNat ∧ c.toNat ≤ 57 := Char.isDigit_iff_toNat.mp h
  constructor
  · simp [isBlank]
    omega
  · intro hmem
    simp only [reserved, List.mem_cons, List.not_mem_nil, or_false] at hmem
    rcases hmem with rfl | rfl | rfl | rfl | rfl | rfl
    all_goals cases h

/-- Digits are plain. -/
theorem AllDigits.allPlain {cs : List Char} (h : AllDigits cs) : AllPlain cs :=
  fun c hc => isPlain_of_isDigit (h c hc)

theorem allPlain_exponentText (x : Int) : AllPlain (Decimal.exponentText x) := by
  unfold Decimal.exponentText
  refine .cons (by decide) (.cons ?_ (allDigits_padded _ _).allPlain)
  split_ifs
  all_goals decide

/-- Digits with a point are plain. -/
theorem allPlain_positional (d : Decimal.Digits) : AllPlain (Decimal.positional true d) := by
  have hdigits : AllPlain (Decimal.digitChars d.digits) := (allDigits_toDigits d.digits).allPlain
  have hzeros (k : Nat) : AllPlain (List.replicate k '0') := (allDigits_replicate k).allPlain
  unfold Decimal.positional
  dsimp only
  rw [if_pos rfl]
  split_ifs
  · exact (hdigits.append (hzeros _)).append (.cons (by decide) (hzeros 1))
  · have hall := (hzeros ((-d.exponent).toNat + 1 - (Decimal.digitChars d.digits).length)).append
      hdigits
    generalize List.replicate _ '0' ++ Decimal.digitChars d.digits = cs at hall ⊢
    have htake (n : Nat) : AllPlain (cs.take n) := fun c hc => hall c (List.mem_of_mem_take hc)
    have hdrop (n : Nat) : AllPlain (cs.drop n) := fun c hc => hall c (List.mem_of_mem_drop hc)
    refine (htake _).append (.cons (c := '.') ?_ (hdrop _))
    decide

/-- Digits with an exponent are plain. -/
theorem allPlain_scientific (d : Decimal.Digits) : AllPlain (Decimal.scientific d) := by
  have hdigits : AllPlain (Decimal.digitChars d.digits) := (allDigits_toDigits d.digits).allPlain
  unfold Decimal.scientific
  split
  next => exact fun _ hc => absurd hc List.not_mem_nil
  next c rest heq =>
    obtain ⟨hc, hrest⟩ := List.forall_mem_cons.mp (heq ▸ hdigits)
    refine .append ?_ (allPlain_exponentText _)
    split_ifs
    · exact List.forall_mem_singleton.mpr hc
    · exact .cons hc (.cons (by decide) hrest)

/-- The text of digits is plain in whichever way it is written. -/
theorem allPlain_plain (d : Decimal.Digits) : AllPlain (Decimal.plainStyle.digits d) := by
  unfold Decimal.Style.digits
  dsimp only
  split_ifs
  · exact allPlain_positional d
  · exact allPlain_scientific d

theorem AllPlain.signed {cs : List Char} (h : AllPlain cs) (negative : Bool) :
    AllPlain (Decimal.signed negative cs) := by
  cases negative with
  | false => exact h
  | true => exact .cons (by decide) h

/-- No plain text holds the character that ends texts elsewhere. -/
theorem AllPlain.not_mem_nul {cs : List Char} (h : AllPlain cs) : '\x00' ∉ cs :=
  fun hmem => (h _ hmem).ne (by decide) rfl

/-! ## Integers -/

/-- The digits of an integer without its sign. -/
theorem toList_toString_int (i : Int) :
    (toString i).toList = Decimal.signed (decide (i < 0)) (Nat.toDigits 10 i.natAbs) := by
  cases i with
  | ofNat n =>
    show (Nat.repr n).toList = _
    rw [Nat.toList_repr]
    rfl
  | negSucc n =>
    show ("-" ++ Nat.repr (n + 1)).toList = _
    rw [String.toList_append, Nat.toList_repr, decide_eq_true (Int.negSucc_lt_zero n)]
    rfl

/-- An integer is written in plain characters. -/
theorem allPlain_int (i : Int) : AllPlain (toString i).toList := by
  rw [toList_toString_int]
  exact (allDigits_toDigits _).allPlain.signed _

/-- **An integer is read back from its digits**, as long as there are not too many. -/
theorem read_int [Text.CharacterNames] {i : Int}
    (h : (Nat.toDigits 10 i.natAbs).length ≤ Numeral.digitLimit) :
    read (toString i).toList = .ok (some (.int i)) := by
  have htokens : tokens (toString i).toList = some (if decide (i < 0)
      then [.mark '-', .integer i.natAbs] else [.integer i.natAbs]) := by
    rw [toList_toString_int]
    exact tokens_signed (exists_digit_toDigits _) (number_toDigits h) _
  have hread := read_integer (allPlain_int i).not_mem_nul htokens
  rwa [signed_natAbs] at hread

/-! ## Doubles -/

/-- The digits that are written for a finite double without its sign. -/
def digitsOf (m : Nat) (q : Int) : Decimal.Digits :=
  if m = 0 then ⟨0, 0⟩ else Decimal.shortest m q

/-- A finite double is written by its sign and its shortest digits. -/
theorem toList_plain {x : Float} {negative : Bool} {m : Nat} {q : Int}
    (h : Decimal.parts x = .finite negative m q) : (Decimal.plain x).toList
      = Decimal.signed negative (Decimal.plainStyle.digits (digitsOf m q)) := by
  unfold Decimal.plain Decimal.Style.write
  rw [h]
  exact String.toList_ofList

/-- **The shortest digits of a double lead back to it**, from any decimal of the same value. -/
theorem ofDecimal_eq_ofPattern {m : Nat} {q : Int} (hc : Canonical m q) {digits : Nat}
    {exponent : Int} (h : (digits : ℚ) * 10 ^ exponent = (digitsOf m q).value) (negative : Bool) :
    ofDecimal negative digits exponent = ofPattern negative (patternOf m q) := by
  unfold digitsOf at h
  split_ifs at h with hm
  · -- Zero has the least exponent, and so the pattern without bits.
    have hq : q = Decimal.leastExponent := hc.normal.resolve_left (by omega)
    have hzero : digits = 0 := by
      have hpower : (10 : ℚ) ^ exponent ≠ 0 := zpow_ne_zero _ (by norm_num)
      have hproduct : (digits : ℚ) * 10 ^ exponent = 0 := by
        rw [h]
        unfold Decimal.Digits.value
        norm_num
      exact Nat.cast_eq_zero.mp ((mul_eq_zero.mp hproduct).resolve_right hpower)
    rw [hq, hm, hzero]
    rfl
  · have hpos : 0 < m := Nat.pos_of_ne_zero hm
    exact Decimal.ofDecimal_eq hc hpos (h ▸ Decimal.roundsTo_shortest hc hpos) negative

/-- A finite double has a sign, a significand and an exponent. -/
theorem exists_parts {x : Float} (h : Decimal.isFinite x = true) :
    ∃ negative m q, Decimal.parts x = .finite negative m q := by
  unfold Decimal.isFinite at h
  split at h
  next negative m q heq => exact ⟨negative, m, q, heq⟩
  next => cases h

/-- A finite double is written in plain characters. -/
theorem allPlain_float {x : Float} (h : Decimal.isFinite x = true) :
    AllPlain (Decimal.plain x).toList := by
  obtain ⟨negative, m, q, hparts⟩ := exists_parts h
  rw [toList_plain hparts]
  exact (allPlain_plain _).signed negative

/-- **A finite double is read back from its shortest digits**, with its sign. -/
theorem read_float [Text.CharacterNames] {x : Float} (h : Decimal.isFinite x = true) :
    read (Decimal.plain x).toList = .ok (some (.float x)) := by
  obtain ⟨negative, m, q, hparts⟩ := exists_parts h
  obtain ⟨hc, hx⟩ := Decimal.eq_ofPattern hparts
  obtain ⟨hfirst, digits, exponent, hnumber, hvalue⟩ := isDecimal_plain (digitsOf m q)
  have hsame : (if negative then -ofDecimal false digits exponent
      else ofDecimal false digits exponent) = x := by
    rw [hx, ofDecimal_eq_ofPattern hc hvalue false]
    cases negative with
    | false => rfl
    | true => exact Decimal.neg_ofPattern hc.patternOf_lt
  have htokens : tokens (Decimal.plain x).toList = some (if negative
      then [.mark '-', .decimal (ofDecimal false digits exponent)]
      else [.decimal (ofDecimal false digits exponent)]) := by
    rw [toList_plain hparts]
    exact tokens_signed hfirst hnumber negative
  have hread := read_decimal (allPlain_float h).not_mem_nul htokens
  rwa [hsame] at hread

/-! ## Texts -/

/-- A text is shown between quotes. -/
theorem showChars_of_points? {v : Value} {ps : List Text.Point} (h : v.points? = some ps) :
    v.showChars = quoted ps := by
  cases v with
  | str s => exact congrArg quoted (Option.some.inj h)
  | illformed t => exact congrArg quoted (Option.some.inj h)
  | _ => cases h

/-- **A text is read back as it is shown**, whatever its code points are. -/
theorem read_showChars [Text.CharacterNames] {v : Value} {ps : List Text.Point}
    (h : v.points? = some ps) : read v.showChars = .ok (some v) := by
  rw [showChars_of_points? h]
  have hread := read_text (not_mem_nul_quoted ps) (tokens_quoted ps)
  rwa [Value.ofPoints_of_points? h] at hread

end PoissonFactor.Literal
