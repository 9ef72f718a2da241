import PoissonFactor.Literal.Token
import PoissonFactor.Proofs.Decimal.Shortest

/-!
# Numbers as words

The digits of an integer are one word (`Literal.number_toDigits`), and so is the text that is
written for digits with an exponent (`Literal.isDecimal_plain`): the digits before and behind the
point spell one number, and the place of the point and the exponent say by which power of ten it is
scaled. A minus sign in front is a word of its own (`Literal.tokens_signed`).
-/

namespace PoissonFactor

/-! ## Digits -/

namespace Numeral

/-- The value of digits is that of the standard library. -/
theorem digitsValue_eq (cs : List Char) : digitsValue cs = Nat.ofDigitChars 10 cs 0 := by
  unfold digitsValue Nat.ofDigitChars
  congr 1
  funext n c
  rw [Nat.mul_comm]
  rfl

/-- The digits of a number stand for it. -/
theorem digitsValue_toDigits (n : Nat) : digitsValue (Nat.toDigits 10 n) = n := by
  rw [digitsValue_eq, Nat.ofDigitChars_ten_toDigits]

/-- Zeros in front do not count. -/
theorem digitsValue_replicate_append (k : Nat) (cs : List Char) :
    digitsValue (List.replicate k '0' ++ cs) = digitsValue cs := by
  rw [digitsValue_eq, Nat.ofDigitChars_append, Nat.ofDigitChars_replicate_zero, Nat.mul_zero,
    digitsValue_eq]

/-- Each zero behind makes the number ten times as large. -/
theorem digitsValue_append_replicate (cs : List Char) (k : Nat) :
    digitsValue (cs ++ List.replicate k '0') = digitsValue cs * 10 ^ k := by
  rw [digitsValue_eq, Nat.ofDigitChars_append, Nat.ofDigitChars_replicate_zero, digitsValue_eq,
    Nat.mul_comm]

end Numeral

namespace Literal

/-- A text of digits. -/
def AllDigits (cs : List Char) : Prop :=
  ∀ c ∈ cs, c.isDigit = true

instance (cs : List Char) : Decidable (AllDigits cs) :=
  List.decidableBAll _ cs

theorem allDigits_toDigits (n : Nat) : AllDigits (Nat.toDigits 10 n) :=
  fun _ hc => Nat.isDigit_of_mem_toDigits (by decide) (by decide) hc

theorem allDigits_replicate (k : Nat) : AllDigits (List.replicate k '0') := by
  intro c hc
  rw [List.eq_of_mem_replicate hc]
  rfl

/-- Digits can be put together. -/
theorem AllDigits.append {cs ds : List Char} (hcs : AllDigits cs) (hds : AllDigits ds) :
    AllDigits (cs ++ ds) :=
  fun c hc => (List.mem_append.mp hc).elim (hcs c) (hds c)

/-- What a run of digits ends before. -/
def EndsDigits (rest : List Char) : Prop :=
  ∀ c, rest.head? = some c → c.isDigit = false ∧ c ≠ '_'

/-- A run of digits goes on for as long as there are some. -/
theorem digitRun_cons {p : Char → Bool} {c : Char} (hc : c ≠ '_') (previous : Bool)
    (rest : List Char) : digitRun p previous (c :: rest)
      = if p c then (c :: (digitRun p true rest).1, (digitRun p true rest).2)
        else ([], c :: rest) := by
  rw [digitRun]
  exact fun _ _ h => absurd h hc

/-- It takes all digits and leaves what follows. -/
theorem digitRun_eq {ds rest : List Char} (hds : AllDigits ds) (hrest : EndsDigits rest)
    (previous : Bool) : digitRun Char.isDigit previous (ds ++ rest) = (ds, rest) := by
  induction ds generalizing previous with
  | nil =>
    cases rest with
    | nil => rfl
    | cons c rest =>
      obtain ⟨hdigit, hscore⟩ := hrest c rfl
      rw [List.nil_append, digitRun_cons hscore, hdigit, if_neg Bool.false_ne_true]
  | cons d ds ih =>
    obtain ⟨hd, hds⟩ := List.forall_mem_cons.mp hds
    have hscore : d ≠ '_' := by
      rintro rfl
      cases hd
    rw [List.cons_append, digitRun_cons hscore, if_pos hd, ih hds]

/-- The first digit of a number is no zero, unless the number is zero. -/
theorem head?_toDigits_ne_zero {n : Nat} (h : n ≠ 0) :
    (Nat.toDigits 10 n).head? ≠ some '0' := by
  induction n using Nat.strongRecOn with
  | ind n ih =>
    by_cases hsmall : n < 10
    · rw [Nat.toDigits_of_lt_base hsmall]
      exact fun hzero => h (Nat.digitChar_eq_zero.mp (Option.some.inj hzero))
    · rw [Nat.toDigits_of_base_le (by decide) (by omega),
        List.head?_append_of_ne_nil _ Nat.toDigits_ne_nil]
      exact ih (n / 10) (by omega) (by omega)

/-! ## Numbers without a sign -/

/-- The letters that, behind a zero, make a number one of another base. -/
def BaseMark (c : Char) : Prop :=
  c ∈ ['x', 'X', 'o', 'O', 'b', 'B']

/-- No digit names another base. -/
theorem not_baseMark_of_isDigit {c : Char} (h : c.isDigit = true) : ¬ BaseMark c := by
  intro hmark
  simp only [BaseMark, List.mem_cons, List.not_mem_nil, or_false] at hmark
  rcases hmark with rfl | rfl | rfl | rfl | rfl | rfl
  all_goals cases h

/-- A number whose digits before the point have been read. -/
theorem number_eq {whole rest : List Char} (hwhole : AllDigits whole) (hne : whole ≠ [])
    (hrest : EndsDigits rest) (hmark : ∀ c, rest.head? = some c → ¬ BaseMark c) :
    number (whole ++ rest) = afterWhole whole rest := by
  have hrun := digitRun_eq hwhole hrest false
  unfold number
  split
  next c cs heq =>
    have hc : ¬ BaseMark c := by
      cases whole with
      | nil => exact absurd rfl hne
      | cons d ds =>
        have htail : ds ++ rest = c :: cs := (List.cons.inj heq).2
        cases ds with
        | nil => exact hmark c (by rw [← List.nil_append rest, htail]; rfl)
        | cons d' ds =>
          have hhead : d' = c := (List.cons.inj htail).1
          exact not_baseMark_of_isDigit (hwhole c (by rw [← hhead]; simp))
    simp only [BaseMark, List.mem_cons, List.not_mem_nil, or_false, not_or] at hc
    rw [hrun]
    simp [hc]
  next => rw [hrun]

/-- Digits alone are an integer, if they have no zero in front. -/
theorem afterWhole_nil {whole : List Char} (hzero : whole.head? = some '0' → whole = ['0'])
    (hlimit : whole.length ≤ Numeral.digitLimit) :
    afterWhole whole [] = some (.integer (Numeral.digitsValue whole), []) := by
  have hplain : ¬ (whole.head? = some '0' && whole.any (· != '0')) = true := by
    intro h
    obtain ⟨hhead, hother⟩ := Bool.and_eq_true_iff.mp h
    rw [hzero (of_decide_eq_true hhead)] at hother
    cases hother
  show decimalToken.integer whole [] = _
  unfold decimalToken.integer
  rw [if_neg hplain, if_neg (by omega)]
  rfl

theorem endsDigits_nil : EndsDigits [] := by
  intro c hc
  cases hc

theorem digitRun_self {ds : List Char} (hds : AllDigits ds) (previous : Bool) :
    digitRun Char.isDigit previous ds = (ds, []) := by
  have hrun := digitRun_eq hds endsDigits_nil previous
  rwa [List.append_nil] at hrun

/-- Zeros in front of digits are digits. -/
theorem allDigits_padded (width n : Nat) : AllDigits (Decimal.padded width n) :=
  (allDigits_replicate _).append (allDigits_toDigits n)

theorem padded_ne_nil (width n : Nat) : Decimal.padded width n ≠ [] :=
  List.append_ne_nil_of_right_ne_nil _ Nat.toDigits_ne_nil

/-- They do not change the value. -/
theorem digitsValue_padded (width n : Nat) : Numeral.digitsValue (Decimal.padded width n) = n := by
  unfold Decimal.padded Decimal.digitChars
  rw [Numeral.digitsValue_replicate_append, Numeral.digitsValue_toDigits]

/-- The sign of an exponent and its digits. -/
theorem sign_exponent (x : Int) :
    Numeral.sign ((if x < 0 then '-' else '+') :: Decimal.padded 2 x.natAbs)
      = (decide (x < 0), Decimal.padded 2 x.natAbs) := by
  by_cases hx : x < 0
  · rw [if_pos hx, decide_eq_true hx]
    rfl
  · rw [if_neg hx, decide_eq_false hx]
    rfl

/-- A sign and a size make the integer. -/
theorem signed_natAbs (x : Int) : (if decide (x < 0) then -(x.natAbs : Int) else x.natAbs) = x := by
  by_cases hx : x < 0
  · rw [decide_eq_true hx, if_pos rfl]
    omega
  · rw [decide_eq_false hx, if_neg Bool.false_ne_true]
    omega

/-- An exponent is read from its text. -/
theorem exponentPart_exponentText (x : Int) :
    exponentPart (Decimal.exponentText x) = some (x, []) := by
  obtain ⟨d, ds, hcons⟩ := List.exists_cons_of_ne_nil (padded_ne_nil 2 x.natAbs)
  unfold Decimal.exponentText exponentPart
  dsimp only
  have hmark : (decide ('e' = 'e') || decide ('e' = 'E')) = true := rfl
  rw [if_pos hmark, sign_exponent]
  dsimp only
  rw [digitRun_self (allDigits_padded 2 _), hcons]
  dsimp only
  rw [← hcons, digitsValue_padded, signed_natAbs]

/-- Digits end where an exponent begins. -/
theorem endsDigits_exponentText (x : Int) : EndsDigits (Decimal.exponentText x) := by
  rintro c ⟨⟩
  exact ⟨rfl, by decide⟩

/-- What stands behind a point: a run of digits, and perhaps an exponent. -/
theorem afterWhole_cons (whole after : List Char) : afterWhole whole ('.' :: after)
    = match exponentPart (digitRun Char.isDigit false after).2 with
      | some (x, rest) => decimalToken whole (digitRun Char.isDigit false after).1 x true rest
      | none => decimalToken whole (digitRun Char.isDigit false after).1 0 true
          (digitRun Char.isDigit false after).2 := rfl

/-- A number with a point. -/
theorem afterWhole_point (whole : List Char) {fraction : List Char}
    (hfraction : AllDigits fraction) :
    afterWhole whole ('.' :: fraction)
      = some (.decimal (Decimal.ofDecimal false (Numeral.digitsValue (whole ++ fraction))
          (0 - fraction.length)), []) := by
  rw [afterWhole_cons, digitRun_self hfraction]
  rfl

/-- A number with a point and an exponent. -/
theorem afterWhole_point_exponent (whole : List Char) {fraction : List Char}
    (hfraction : AllDigits fraction) (x : Int) :
    afterWhole whole ('.' :: (fraction ++ Decimal.exponentText x))
      = some (.decimal (Decimal.ofDecimal false (Numeral.digitsValue (whole ++ fraction))
          (x - fraction.length)), []) := by
  rw [afterWhole_cons, digitRun_eq hfraction (endsDigits_exponentText x)]
  dsimp only
  rw [exponentPart_exponentText]
  rfl

/-- A number with an exponent only. -/
theorem afterWhole_exponent (whole : List Char) (x : Int) :
    afterWhole whole (Decimal.exponentText x)
      = some (.decimal (Decimal.ofDecimal false (Numeral.digitsValue whole) x), []) := by
  show (match exponentPart (Decimal.exponentText x) with
    | some (x, after) => decimalToken whole [] x true after
    | none => _) = _
  rw [exponentPart_exponentText]
  dsimp only
  unfold decimalToken
  rw [List.append_nil, List.length_nil, Int.natCast_zero, Int.sub_zero]
  rfl

/-! ## Written doubles -/

/-- A text that begins with a digit and is read as a decimal number of this value. -/
def IsDecimal (cs : List Char) (v : ℚ) : Prop :=
  (∃ c rest, cs = c :: rest ∧ c.isDigit = true)
    ∧ ∃ digits exponent, number cs = some (.decimal (Decimal.ofDecimal false digits exponent), [])
      ∧ (digits : ℚ) * 10 ^ (exponent : Int) = v

theorem endsDigits_point (cs : List Char) : EndsDigits ('.' :: cs) := by
  rintro c ⟨⟩
  exact ⟨rfl, by decide⟩

section

variable {whole fraction : List Char} (hwhole : AllDigits whole) (hne : whole ≠ [])
include hwhole hne

theorem exists_digit_append (rest : List Char) :
    ∃ c tail, whole ++ rest = c :: tail ∧ c.isDigit = true := by
  obtain ⟨c, tail, rfl⟩ := List.exists_cons_of_ne_nil hne
  exact ⟨c, tail ++ rest, rfl, hwhole c List.mem_cons_self⟩

/-- Digits with a point behind them are no integer. -/
theorem number_point (cs : List Char) :
    number (whole ++ '.' :: cs) = afterWhole whole ('.' :: cs) := by
  refine number_eq hwhole hne (endsDigits_point cs) ?_
  rintro c ⟨⟩
  unfold BaseMark
  decide

/-- Digits on both sides of a point are a decimal. -/
theorem isDecimal_point (hfraction : AllDigits fraction) :
    IsDecimal (whole ++ '.' :: fraction)
      (Numeral.digitsValue (whole ++ fraction) * 10 ^ (0 - (fraction.length : Int))) :=
  ⟨exists_digit_append hwhole hne _, _, _,
    (number_point hwhole hne _).trans (afterWhole_point whole hfraction), rfl⟩

/-- They are one with an exponent as well. -/
theorem isDecimal_point_exponent (hfraction : AllDigits fraction) (x : Int) :
    IsDecimal (whole ++ '.' :: (fraction ++ Decimal.exponentText x))
      (Numeral.digitsValue (whole ++ fraction) * 10 ^ (x - (fraction.length : Int))) :=
  ⟨exists_digit_append hwhole hne _, _, _,
    (number_point hwhole hne _).trans (afterWhole_point_exponent whole hfraction x), rfl⟩

/-- So are digits with an exponent and no point. -/
theorem isDecimal_exponent (x : Int) :
    IsDecimal (whole ++ Decimal.exponentText x) (Numeral.digitsValue whole * 10 ^ x) := by
  refine ⟨exists_digit_append hwhole hne _, _, _, Eq.trans ?_ (afterWhole_exponent whole x), rfl⟩
  refine number_eq hwhole hne (endsDigits_exponentText x) ?_
  rintro c ⟨⟩
  unfold BaseMark
  decide

end

/-- Zeros behind the digits make up for an exponent that is not negative. -/
theorem isDecimal_zeros {d : Decimal.Digits} (he : 0 ≤ d.exponent) :
    IsDecimal (Nat.toDigits 10 d.digits ++ List.replicate d.exponent.toNat '0' ++ ['.', '0'])
      d.value := by
  have hwhole : AllDigits (Nat.toDigits 10 d.digits ++ List.replicate d.exponent.toNat '0') :=
    (allDigits_toDigits d.digits).append (allDigits_replicate _)
  have hvalue : d.value = Numeral.digitsValue (Nat.toDigits 10 d.digits
      ++ List.replicate d.exponent.toNat '0' ++ List.replicate 1 '0')
      * 10 ^ (0 - ((List.replicate 1 '0').length : Int)) := by
    rw [List.append_assoc, List.replicate_append_replicate, Numeral.digitsValue_append_replicate,
      Numeral.digitsValue_toDigits]
    obtain ⟨n, hn⟩ := Int.eq_ofNat_of_zero_le he
    unfold Decimal.Digits.value
    rw [hn, Int.toNat_natCast, zpow_natCast, List.length_replicate, Nat.cast_mul, pow_add]
    norm_num
    ring
  rw [hvalue]
  exact isDecimal_point hwhole (List.append_ne_nil_of_left_ne_nil Nat.toDigits_ne_nil _)
    (allDigits_replicate 1)

/-- A point between digits divides by a power of ten. -/
theorem isDecimal_split {cs : List Char} (hcs : AllDigits cs) {after : Nat}
    (hafter : after < cs.length) :
    IsDecimal (cs.take (cs.length - after) ++ '.' :: cs.drop (cs.length - after))
      (Numeral.digitsValue cs * 10 ^ (-(after : Int))) := by
  have hlength : (cs.drop (cs.length - after)).length = after := by
    rw [List.length_drop]
    omega
  have hvalue : (Numeral.digitsValue cs : ℚ) * 10 ^ (-(after : Int))
      = Numeral.digitsValue (cs.take (cs.length - after) ++ cs.drop (cs.length - after))
        * 10 ^ (0 - ((cs.drop (cs.length - after)).length : Int)) := by
    rw [hlength, List.take_append_drop, Int.zero_sub]
  have hne : cs.take (cs.length - after) ≠ [] := by
    rw [Ne, List.eq_nil_iff_length_eq_zero, List.length_take]
    omega
  rw [hvalue]
  exact isDecimal_point (fun c hc => hcs c (List.mem_of_mem_take hc)) hne
    fun c hc => hcs c (List.mem_of_mem_drop hc)

/-- Digits with the point placed by position are read as the number they stand for. -/
theorem isDecimal_positional (d : Decimal.Digits) :
    IsDecimal (Decimal.positional true d) d.value := by
  unfold Decimal.positional Decimal.digitChars
  dsimp only
  by_cases he : 0 ≤ d.exponent
  · rw [if_pos he, if_pos rfl]
    exact isDecimal_zeros he
  · rw [if_neg he]
    have hvalue : d.value = Numeral.digitsValue (List.replicate ((-d.exponent).toNat + 1
        - (Nat.toDigits 10 d.digits).length) '0' ++ Nat.toDigits 10 d.digits)
        * 10 ^ (-((-d.exponent).toNat : Int)) := by
      rw [Numeral.digitsValue_replicate_append, Numeral.digitsValue_toDigits]
      unfold Decimal.Digits.value
      congr 2
      omega
    rw [hvalue]
    refine isDecimal_split ((allDigits_replicate _).append (allDigits_toDigits d.digits)) ?_
    rw [List.length_append, List.length_replicate]
    omega

/-- Digits with an exponent are read as the number they stand for. -/
theorem isDecimal_scientific (d : Decimal.Digits) :
    IsDecimal (Decimal.scientific d) d.value := by
  obtain ⟨c, rest, hcons⟩ := List.exists_cons_of_ne_nil
    (show Decimal.digitChars d.digits ≠ [] from Nat.toDigits_ne_nil)
  have hdigits : AllDigits (c :: rest) := hcons ▸ allDigits_toDigits d.digits
  obtain ⟨hc, hrest⟩ := List.forall_mem_cons.mp hdigits
  have hvalue : Numeral.digitsValue (c :: rest) = d.digits := by
    rw [← hcons]
    exact Numeral.digitsValue_toDigits d.digits
  have hfirst : AllDigits [c] := List.forall_mem_singleton.mpr hc
  unfold Decimal.scientific Decimal.Digits.value
  rw [hcons, ← hvalue]
  dsimp only
  by_cases hsingle : rest = []
  · rw [hsingle, List.isEmpty_nil, if_pos rfl, List.length_nil, Int.natCast_zero, Int.add_zero]
    exact isDecimal_exponent hfirst (List.cons_ne_nil c []) _
  · have hmany : rest.isEmpty = false := List.isEmpty_eq_false_iff.mpr hsingle
    have hpoint := isDecimal_point_exponent hfirst (List.cons_ne_nil c []) hrest
      (d.exponent + rest.length)
    rw [Int.add_sub_cancel] at hpoint
    rw [hmany, if_neg Bool.false_ne_true]
    exact hpoint

/-- **A written double is read as the number its digits stand for.** -/
theorem isDecimal_plain (d : Decimal.Digits) : IsDecimal (Decimal.plainStyle.digits d) d.value := by
  unfold Decimal.Style.digits
  dsimp only
  split_ifs
  · exact isDecimal_positional d
  · exact isDecimal_scientific d

/-! ## Words -/

/-- The digits of an integer are its word. -/
theorem number_toDigits {n : Nat} (h : (Nat.toDigits 10 n).length ≤ Numeral.digitLimit) :
    number (Nat.toDigits 10 n) = some (.integer n, []) := by
  have hzero : (Nat.toDigits 10 n).head? = some '0' → Nat.toDigits 10 n = ['0'] := by
    intro hhead
    by_cases hn : n = 0
    · rw [hn, Nat.toDigits_zero]
    · exact absurd hhead (head?_toDigits_ne_zero hn)
  have hwhole : number (Nat.toDigits 10 n ++ []) = afterWhole (Nat.toDigits 10 n) [] :=
    number_eq (allDigits_toDigits n) Nat.toDigits_ne_nil endsDigits_nil fun c hc => by cases hc
  rw [List.append_nil] at hwhole
  rw [hwhole, afterWhole_nil hzero h, Numeral.digitsValue_toDigits]

theorem exists_digit_toDigits (n : Nat) :
    ∃ c rest, Nat.toDigits 10 n = c :: rest ∧ c.isDigit = true := by
  have hfirst := exists_digit_append (allDigits_toDigits n) Nat.toDigits_ne_nil []
  rwa [List.append_nil] at hfirst

section

variable [Text.CharacterNames]

/-- The first word of a text that begins with no blank and no comment. -/
theorem tokens_cons {c : Char} {rest after : List Char} {t : Token}
    (hc : c ≠ ' ' ∧ c ≠ '\t' ∧ c ≠ '#') (h : next? (c :: rest) = some (t, after))
    (hlength : after.length ≤ rest.length) :
    tokens (c :: rest) = (tokens after).map (t :: ·) := by
  rw [tokens, if_neg (by simp [hc.1, hc.2.1]), if_neg hc.2.2, h]
  exact dif_pos hlength

theorem tokens_nil : tokens [] = some [] := by
  rw [tokens]

/-- A number that takes up the whole text is its only token. -/
theorem tokens_number {cs : List Char} {t : Token}
    (hfirst : ∃ c rest, cs = c :: rest ∧ c.isDigit = true) (h : number cs = some (t, [])) :
    tokens cs = some [t] := by
  obtain ⟨c, rest, rfl, hc⟩ := hfirst
  have hnext : next? (c :: rest) = some (t, []) := by
    unfold next?
    dsimp only
    rw [if_pos hc, h]
  have hother : c ≠ ' ' ∧ c ≠ '\t' ∧ c ≠ '#' := by
    refine ⟨?_, ?_, ?_⟩
    all_goals
      rintro rfl
      cases hc
  rw [tokens_cons hother hnext (Nat.zero_le _), tokens_nil]
  rfl

/-- A minus sign is a token of its own. -/
theorem tokens_minus (cs : List Char) :
    tokens ('-' :: cs) = (tokens cs).map (.mark '-' :: ·) :=
  tokens_cons (by decide) rfl le_rfl

/-- The words of a number with its sign in front. -/
theorem tokens_signed {cs : List Char} {t : Token}
    (hfirst : ∃ c rest, cs = c :: rest ∧ c.isDigit = true) (h : number cs = some (t, []))
    (negative : Bool) :
    tokens (Decimal.signed negative cs) = some (if negative then [.mark '-', t] else [t]) := by
  cases negative with
  | false => exact tokens_number hfirst h
  | true =>
    show tokens ('-' :: cs) = _
    rw [tokens_minus, tokens_number hfirst h]
    rfl

end

end Literal

end PoissonFactor
