import PoissonFactor.Proofs.Decimal.FewDigits
import PoissonFactor.Proofs.Decimal.Scaled
import PoissonFactor.Table.Column

/-!
# Numbers in the cells of a table

A cell holds a number as a sign, digits, a point with digits and an exponent (`NumberText`). Such
a text stands for no missing entry, and it is taken apart into what it was made of:

> `NumberText.numeral_double?_text`: as a decimal, it is the double nearest to its digits, scaled
> by its exponent,
> `NumberText.decimal?_text`: in a table, it is read from the digits that are taken up,
> `NumberText.integer?_text`, `NumberText.integer?_text_eq_none`: and as an integer exactly when
> it has neither a point nor an exponent.
-/

namespace PoissonFactor

open Literal (AllDigits)
open Numeral (digitsValue)

/-- What may stand in front of a number. -/
inductive Mark where
  | none
  | plus
  | minus
deriving DecidableEq

namespace Mark

/-- A mark as text. -/
def text : Mark → List Char
  | none => []
  | plus => ['+']
  | minus => ['-']

/-- Does the number have a minus sign? -/
def isNegative : Mark → Bool
  | minus => true
  | _ => false

end Mark

/-- A number as it is written: a sign, digits, a point with digits and an exponent, of which all
but some of the digits may be left out. -/
structure NumberText where
  mark : Mark
  whole : List Char
  fraction : Option (List Char)
  exponent : Option Int
  allDigits : AllDigits (whole ++ fraction.getD [])
  nonempty : whole ++ fraction.getD [] ≠ []

namespace NumberText

variable (t : NumberText)

/-- The digits behind the point. -/
def places : List Char :=
  t.fraction.getD []

/-- The point with what stands behind it. -/
def pointed : List Char :=
  t.fraction.elim [] ('.' :: ·)

/-- The exponent as text. -/
def scale : List Char :=
  t.exponent.elim [] Decimal.exponentText

/-- The number without its sign. -/
def unsigned : List Char :=
  t.whole ++ (t.pointed ++ t.scale)

/-- The number as text. -/
def text : List Char :=
  t.mark.text ++ t.unsigned

theorem allDigits_whole : AllDigits t.whole :=
  fun c hc => t.allDigits c (List.mem_append_left _ hc)

theorem allDigits_places : AllDigits t.places :=
  fun c hc => t.allDigits c (List.mem_append_right _ hc)

/-- With a point there are the digits behind it. -/
theorem pointed_of_some {t : NumberText} {ds : List Char} (h : t.fraction = some ds) :
    t.places = ds ∧ t.pointed = '.' :: ds := by
  unfold places pointed
  rw [h]
  exact ⟨rfl, rfl⟩

/-- Without a point there are none. -/
theorem pointed_of_none {t : NumberText} (h : t.fraction = none) :
    t.places = [] ∧ t.pointed = [] := by
  unfold places pointed
  rw [h]
  exact ⟨rfl, rfl⟩

theorem scale_of_some {t : NumberText} {x : Int} (h : t.exponent = some x) :
    t.scale = Decimal.exponentText x := by
  unfold scale
  rw [h]
  rfl

theorem scale_of_none {t : NumberText} (h : t.exponent = none) : t.scale = [] := by
  unfold scale
  rw [h]
  rfl

/-! ## What the number is -/

/-- Is the number an integer, with neither a point nor an exponent? -/
def IsWhole : Prop :=
  t.fraction = none ∧ t.exponent = none

/-- The integer that the digits before the point stand for. -/
def integer : Int :=
  if t.mark.isNegative then -(digitsValue t.whole : Int) else digitsValue t.whole

/-- The double that is nearest to the number. -/
def double : Float :=
  Decimal.ofDecimal t.mark.isNegative (digitsValue (t.whole ++ t.places))
    (t.exponent.getD 0 - t.places.length)

/-! ## Characters -/

/-- A character of numbers. -/
def IsNumeric (c : Char) : Prop :=
  c.isDigit = true ∨ c ∈ ['+', '-', '.', 'e']

instance (c : Char) : Decidable (IsNumeric c) :=
  inferInstanceAs (Decidable (_ ∨ _))

/-- A text of characters of numbers. -/
def AllNumeric (cs : List Char) : Prop :=
  ∀ c ∈ cs, IsNumeric c

instance (cs : List Char) : Decidable (AllNumeric cs) :=
  List.decidableBAll _ cs

/-- Texts of numbers can be put together. -/
theorem AllNumeric.append {cs ds : List Char} (hcs : AllNumeric cs) (hds : AllNumeric ds) :
    AllNumeric (cs ++ ds) :=
  fun c hc => (List.mem_append.mp hc).elim (hcs c) (hds c)

theorem AllNumeric.cons {c : Char} {cs : List Char} (hc : IsNumeric c) (hcs : AllNumeric cs) :
    AllNumeric (c :: cs) :=
  List.forall_mem_cons.mpr ⟨hc, hcs⟩

theorem allNumeric_of_allDigits {cs : List Char} (h : AllDigits cs) : AllNumeric cs :=
  fun c hc => Or.inl (h c hc)

/-- A number is written in characters of numbers. -/
theorem allNumeric_text : AllNumeric t.text := by
  have hmark : AllNumeric t.mark.text := by
    cases t.mark
    all_goals decide
  have hpointed : AllNumeric t.pointed := by
    have hplaces := allNumeric_of_allDigits t.allDigits_places
    cases hfraction : t.fraction with
    | none =>
      rw [(pointed_of_none hfraction).2]
      decide
    | some ds =>
      rw [(pointed_of_some hfraction).1] at hplaces
      rw [(pointed_of_some hfraction).2]
      exact .cons (by decide) hplaces
  have hscale : AllNumeric t.scale := by
    cases hexponent : t.exponent with
    | none =>
      rw [scale_of_none hexponent]
      decide
    | some x =>
      rw [scale_of_some hexponent]
      refine .cons (by decide) (.cons ?_ (allNumeric_of_allDigits (Literal.allDigits_padded _ _)))
      split_ifs
      all_goals decide
  exact hmark.append ((allNumeric_of_allDigits t.allDigits_whole).append (hpointed.append hscale))

/-- The number begins with a digit or with its point. -/
theorem exists_unsigned : ∃ c rest, t.unsigned = c :: rest ∧ (c.isDigit = true ∨ c = '.') := by
  have hnonempty := t.nonempty
  have hwhole := t.allDigits_whole
  unfold unsigned
  cases hw : t.whole with
  | cons c rest =>
    rw [hw] at hwhole
    exact ⟨c, rest ++ (t.pointed ++ t.scale), rfl, Or.inl (hwhole c List.mem_cons_self)⟩
  | nil =>
    cases hfraction : t.fraction with
    | none =>
      rw [hw, hfraction] at hnonempty
      exact absurd rfl hnonempty
    | some ds =>
      rw [(pointed_of_some hfraction).2]
      exact ⟨'.', ds ++ t.scale, rfl, Or.inr rfl⟩

/-- No number is the empty text. -/
theorem text_ne_nil : t.text ≠ [] := by
  obtain ⟨c, rest, hunsigned, -⟩ := t.exists_unsigned
  unfold text
  rw [hunsigned]
  exact List.append_ne_nil_of_right_ne_nil _ (List.cons_ne_nil c rest)

/-- No character of a number is blank. -/
theorem isAsciiBlank_of_isNumeric {c : Char} (h : IsNumeric c) : Text.isAsciiBlank c = false := by
  rcases h with hdigit | hother
  · obtain ⟨hlow, -⟩ : 48 ≤ c.toNat ∧ c.toNat ≤ 57 := Char.isDigit_iff_toNat.mp hdigit
    unfold Text.isAsciiBlank
    have hspace : c ≠ ' ' := by
      intro heq
      rw [heq] at hdigit
      cases hdigit
    simp [hspace]
    omega
  · simp only [List.mem_cons, List.not_mem_nil, or_false] at hother
    rcases hother with rfl | rfl | rfl | rfl
    all_goals rfl

/-- Where no character is to be trimmed, none is. -/
theorem trimBy_eq_self {p : Char → Bool} {cs : List Char} (h : ∀ c ∈ cs, p c = false) :
    Text.trimBy p cs = cs := by
  have hdrop : ∀ {ds : List Char}, (∀ c ∈ ds, p c = false) → ds.dropWhile p = ds := by
    intro ds hds
    cases ds with
    | nil => rfl
    | cons d ds =>
      refine List.dropWhile_cons_of_neg ?_
      rw [hds d List.mem_cons_self]
      exact Bool.false_ne_true
  unfold Text.trimBy
  rw [hdrop h, hdrop fun c hc => h c (List.mem_reverse.mp hc), List.reverse_reverse]

theorem trimBy_text : Text.trimBy Text.isAsciiBlank t.text = t.text :=
  trimBy_eq_self fun c hc => isAsciiBlank_of_isNumeric (t.allNumeric_text c hc)

/-- No text that stands for a missing entry is a number. -/
theorem exists_not_isNumeric : ∀ s ∈ Column.missingTexts,
    s = "" ∨ ∃ c ∈ s.toList, ¬ IsNumeric c := by
  simp [Column.missingTexts, IsNumeric]

/-- So a number is never taken for a missing entry. -/
theorem present?_text : Column.present? t.text = some t.text := by
  have hmissing : Column.missingTexts.contains (String.ofList t.text) = false := by
    rw [← Bool.not_eq_true, List.contains_iff_mem]
    intro hmem
    rcases exists_not_isNumeric _ hmem with hempty | ⟨c, hc, hother⟩
    · apply t.text_ne_nil
      have hlist := congrArg String.toList hempty
      rwa [String.toList_ofList] at hlist
    · rw [String.toList_ofList] at hc
      exact hother (t.allNumeric_text c hc)
  unfold Column.present?
  rw [hmissing]
  rfl

/-! ## Reading -/

/-- Digits are read up to what follows them. -/
theorem takeWhile_digits {ds rest : List Char} (hds : AllDigits ds)
    (hrest : ∀ c, rest.head? = some c → c.isDigit = false) :
    (ds ++ rest).takeWhile Char.isDigit = ds ∧ (ds ++ rest).dropWhile Char.isDigit = rest := by
  rw [List.takeWhile_append_of_pos hds, List.dropWhile_append_of_pos hds]
  cases rest with
  | nil => exact ⟨List.append_nil ds, rfl⟩
  | cons c rest =>
    have hc : ¬ c.isDigit = true := by
      rw [hrest c rfl]
      exact Bool.false_ne_true
    rw [List.takeWhile_cons_of_neg hc, List.dropWhile_cons_of_neg hc, List.append_nil]
    exact ⟨rfl, rfl⟩

/-- An exponent begins with its letter. -/
theorem head?_scale {c : Char} (hc : t.scale.head? = some c) : c = 'e' := by
  cases hexponent : t.exponent with
  | none =>
    rw [scale_of_none hexponent] at hc
    cases hc
  | some x =>
    rw [scale_of_some hexponent] at hc
    cases hc
    rfl

/-- The exponent is read as it was, and a missing one as zero. -/
theorem exponent?_scale : Numeral.exponent? t.scale = some (t.exponent.getD 0) := by
  cases hexponent : t.exponent with
  | none =>
    rw [scale_of_none hexponent]
    rfl
  | some x =>
    have hdigits : (!(Decimal.padded 2 x.natAbs).isEmpty
        && (Decimal.padded 2 x.natAbs).all Char.isDigit) = true := by
      rw [Bool.and_eq_true, Bool.not_eq_true', List.isEmpty_eq_false_iff, List.all_eq_true]
      exact ⟨Literal.padded_ne_nil 2 _, Literal.allDigits_padded 2 _⟩
    have hmark : (decide ('e' = 'e') || decide ('e' = 'E')) = true := rfl
    rw [scale_of_some hexponent]
    unfold Decimal.exponentText Numeral.exponent?
    dsimp only
    rw [if_pos hmark, Literal.sign_exponent]
    dsimp only
    rw [if_pos hdigits, Literal.digitsValue_padded, Literal.signed_natAbs]
    rfl

/-- The sign is told from what follows, for that begins with a digit or a point. -/
theorem sign_text : Numeral.sign t.text = (t.mark.isNegative, t.unsigned) := by
  obtain ⟨c, rest, hunsigned, hfirst⟩ := t.exists_unsigned
  unfold text
  cases t.mark with
  | plus => rfl
  | minus => rfl
  | none =>
    show Numeral.sign t.unsigned = (false, t.unsigned)
    rw [hunsigned]
    unfold Numeral.sign
    split
    next heq =>
      cases heq
      rcases hfirst with hdigit | hpoint
      · cases hdigit
      · cases hpoint
    next heq =>
      cases heq
      rcases hfirst with hdigit | hpoint
      · cases hdigit
      · cases hpoint
    next => rfl

/-- The digits before the point end where the point or the exponent begins. -/
theorem takeWhile_unsigned : t.unsigned.takeWhile Char.isDigit = t.whole
    ∧ t.unsigned.dropWhile Char.isDigit = t.pointed ++ t.scale := by
  refine takeWhile_digits t.allDigits_whole fun c hc => ?_
  cases hfraction : t.fraction with
  | none =>
    rw [(pointed_of_none hfraction).2, List.nil_append] at hc
    rw [t.head?_scale hc]
    rfl
  | some ds =>
    rw [(pointed_of_some hfraction).2] at hc
    cases hc
    rfl

/-- The digits behind the point end where the exponent begins. -/
theorem takeWhile_places : (t.places ++ t.scale).takeWhile Char.isDigit = t.places
    ∧ (t.places ++ t.scale).dropWhile Char.isDigit = t.scale := by
  refine takeWhile_digits t.allDigits_places fun c hc => ?_
  rw [t.head?_scale hc]
  rfl

/-- Without digits behind a point, what follows the digits does not begin with one. -/
theorem scale_ne_point (r : List Char) : t.scale ≠ '.' :: r := by
  intro heq
  have hpoint := t.head?_scale (show t.scale.head? = some '.' by rw [heq]; rfl)
  cases hpoint

/-- There is a digit on one side of the point. -/
theorem isEmpty_whole_places : (t.whole.isEmpty && t.places.isEmpty) = false := by
  have hne := t.nonempty
  rw [← Bool.not_eq_true, Bool.and_eq_true, List.isEmpty_iff, List.isEmpty_iff]
  intro hempty
  apply hne
  show t.whole ++ t.places = []
  rw [hempty.1, hempty.2]
  rfl

/-- **A number in a table is read from the digits that are taken up.** -/
theorem decimal?_text : Column.decimal? t.text
    = Decimal.readScaled? t.mark.isNegative t.whole t.places (t.exponent.getD 0) := by
  obtain ⟨hwhole, hrest⟩ := t.takeWhile_unsigned
  obtain ⟨hplaces, htail⟩ := t.takeWhile_places
  have hnonempty := t.isEmpty_whole_places
  unfold Column.decimal?
  rw [t.trimBy_text, t.sign_text]
  dsimp only
  rw [hwhole, hrest]
  cases hfraction : t.fraction with
  | none =>
    obtain ⟨hnone, hpointed⟩ := pointed_of_none hfraction
    rw [hpointed, List.nil_append]
    split
    next r heq => exact absurd heq (t.scale_ne_point r)
    next =>
      rw [hnone] at hnonempty ⊢
      rw [hnonempty, if_neg Bool.false_ne_true, t.exponent?_scale]
      rfl
  | some ds =>
    obtain ⟨hds, hpointed⟩ := pointed_of_some hfraction
    rw [hds] at hplaces htail hnonempty ⊢
    rw [hpointed]
    show (if (t.whole.isEmpty && ((ds ++ t.scale).takeWhile Char.isDigit).isEmpty) = true then none
      else (Numeral.exponent? ((ds ++ t.scale).dropWhile Char.isDigit)).bind fun x =>
        Decimal.readScaled? t.mark.isNegative t.whole
          ((ds ++ t.scale).takeWhile Char.isDigit) x) = _
    rw [hplaces, htail, hnonempty, if_neg Bool.false_ne_true, t.exponent?_scale]
    rfl

/-- A number is taken apart into its digits and the place of the last of them. -/
theorem numeral_decimal?_unsigned : Numeral.decimal? t.unsigned
    = some (digitsValue (t.whole ++ t.places), t.exponent.getD 0 - t.places.length) := by
  obtain ⟨hwhole, hrest⟩ := t.takeWhile_unsigned
  obtain ⟨hplaces, htail⟩ := t.takeWhile_places
  have hnonempty := t.isEmpty_whole_places
  unfold Numeral.decimal?
  dsimp only
  rw [hwhole, hrest]
  cases hfraction : t.fraction with
  | none =>
    obtain ⟨hnone, hpointed⟩ := pointed_of_none hfraction
    rw [hpointed, List.nil_append]
    split
    next r heq => exact absurd heq (t.scale_ne_point r)
    next =>
      rw [hnone] at hnonempty ⊢
      rw [hnonempty, if_neg Bool.false_ne_true, t.exponent?_scale]
      rfl
  | some ds =>
    obtain ⟨hds, hpointed⟩ := pointed_of_some hfraction
    rw [hds] at hplaces htail hnonempty ⊢
    rw [hpointed]
    show (if (t.whole.isEmpty && ((ds ++ t.scale).takeWhile Char.isDigit).isEmpty) = true then none
      else (Numeral.exponent? ((ds ++ t.scale).dropWhile Char.isDigit)).map fun x =>
        (digitsValue (t.whole ++ (ds ++ t.scale).takeWhile Char.isDigit),
          x - (((ds ++ t.scale).takeWhile Char.isDigit).length : Int))) = _
    rw [hplaces, htail, hnonempty, if_neg Bool.false_ne_true, t.exponent?_scale]
    rfl

theorem dropUnderscores_eq_self {cs : List Char} (h : ∀ c ∈ cs, c ≠ '_') (previous : Bool) :
    Numeral.dropUnderscores previous cs = some cs := by
  induction cs generalizing previous with
  | nil => rfl
  | cons c cs ih =>
    obtain ⟨hc, hcs⟩ := List.forall_mem_cons.mp h
    rw [Numeral.dropUnderscores, if_neg hc, ih hcs]
    · rfl
    · exact fun _ _ heq => absurd heq hc

/-- A number is no word: it begins with a digit or with its point. -/
theorem exists_lower_unsigned :
    ∃ c rest, Numeral.lower t.unsigned = c :: rest ∧ c ≠ 'i' ∧ c ≠ 'n' := by
  obtain ⟨c, rest, hunsigned, hfirst⟩ := t.exists_unsigned
  refine ⟨c.toLower, Numeral.lower rest, by rw [hunsigned]; rfl, ?_⟩
  rcases hfirst with hdigit | rfl
  · have hsame : c.toLower = c := by
      simp only [Char.isDigit, Bool.and_eq_true, decide_eq_true_eq, ge_iff_le] at hdigit
      simp only [Char.toLower]
      grind
    rw [hsame]
    refine ⟨?_, ?_⟩
    all_goals
      intro heq
      rw [heq] at hdigit
      cases hdigit
  · decide

/-- **As a decimal, a number is the double that is nearest to it.** -/
theorem numeral_double?_text : Numeral.double? t.text = some t.double := by
  have hno : ∀ c ∈ t.text, c ≠ '_' := by
    intro c hc heq
    have hnumeric := t.allNumeric_text c hc
    rw [heq] at hnumeric
    exact absurd hnumeric (by decide)
  obtain ⟨c, rest, hlower, hi, hn⟩ := t.exists_lower_unsigned
  have hwords :
      (decide (c :: rest = "inf".toList) || decide (c :: rest = "infinity".toList)) = false
        ∧ c :: rest ≠ "nan".toList := by
    rw [Bool.or_eq_false_iff, decide_eq_false_iff_not, decide_eq_false_iff_not]
    exact ⟨⟨fun heq => hi (List.cons.inj heq).1, fun heq => hi (List.cons.inj heq).1⟩,
      fun heq => hn (List.cons.inj heq).1⟩
  unfold Numeral.double?
  rw [dropUnderscores_eq_self hno]
  dsimp only
  rw [t.sign_text]
  dsimp only
  rw [hlower, hwords.1, if_neg Bool.false_ne_true, if_neg hwords.2, t.numeral_decimal?_unsigned]
  rfl

/-- Digits alone are an integer. -/
theorem integer?_text (h : t.IsWhole) : Column.integer? t.text = some t.integer := by
  obtain ⟨hfraction, hexponent⟩ := h
  have hunsigned : t.unsigned = t.whole := by
    unfold unsigned
    rw [(pointed_of_none hfraction).2, scale_of_none hexponent]
    exact List.append_nil _
  have hdigits : (!t.whole.isEmpty && t.whole.all Char.isDigit) = true := by
    have hne := t.nonempty
    rw [hfraction, Option.getD_none, List.append_nil] at hne
    rw [Bool.and_eq_true, Bool.not_eq_true', List.isEmpty_eq_false_iff, List.all_eq_true]
    exact ⟨hne, t.allDigits_whole⟩
  unfold Column.integer?
  rw [t.trimBy_text, t.sign_text, hunsigned]
  dsimp only
  rw [if_pos hdigits]
  rfl

/-- With a point or an exponent, a number is no integer. -/
theorem integer?_text_eq_none (h : t.fraction.isSome = true ∨ t.exponent.isSome = true) :
    Column.integer? t.text = none := by
  have hother : ∃ c ∈ t.unsigned, c.isDigit = false := by
    unfold unsigned
    rcases h with hfraction | hexponent
    · obtain ⟨ds, hds⟩ := Option.isSome_iff_exists.mp hfraction
      rw [(pointed_of_some hds).2]
      exact ⟨'.', by simp, rfl⟩
    · obtain ⟨x, hx⟩ := Option.isSome_iff_exists.mp hexponent
      rw [scale_of_some hx]
      exact ⟨'e', by simp [Decimal.exponentText], rfl⟩
  have hdigits : ¬ (!t.unsigned.isEmpty && t.unsigned.all Char.isDigit) = true := by
    obtain ⟨c, hc, hdigit⟩ := hother
    rw [Bool.and_eq_true, List.all_eq_true]
    intro hall
    rw [hall.2 c hc] at hdigit
    cases hdigit
  unfold Column.integer?
  rw [t.trimBy_text, t.sign_text]
  dsimp only
  rw [if_neg hdigits]

/-- What is read as an integer is the integer that is written there. -/
theorem isWhole_of_integer? {i : Int} (h : Column.integer? t.text = some i) :
    t.IsWhole ∧ t.integer = i := by
  have hwhole : t.IsWhole := by
    by_contra hother
    unfold IsWhole at hother
    rw [not_and_or, ← Ne, ← Ne, ← Option.isSome_iff_ne_none, ← Option.isSome_iff_ne_none] at hother
    rw [t.integer?_text_eq_none hother] at h
    cases h
  rw [t.integer?_text hwhole] at h
  exact ⟨hwhole, Option.some.inj h⟩

/-- A number that is read as a decimal is not tried as a word. -/
theorem double?_text {x : Float} (h : Column.decimal? t.text = some x) :
    Column.double? t.text = some x := by
  unfold Column.double?
  rw [h]
  rfl

end NumberText

end PoissonFactor
