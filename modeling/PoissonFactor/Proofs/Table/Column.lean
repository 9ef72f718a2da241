import PoissonFactor.Proofs.Table.Exact

/-!
# Columns of plain numbers

The functions for columns that are defined here read short numbers exactly:

> `Column.reads_ofTexts`: a column of numbers is read as its integers, or as the doubles that are
> nearest to them, as long as the reader takes each of them for what it is (`Column.IsExact`).

It does so with integers of 64 bits, with decimals of fifteen digits of which it takes up all
(`NumberText.IsShort.isExact`), and with what is written for a double that is nearest to such a
decimal (`Column.isExact_plain`). Whatever was read exactly is converted exactly
(`TableLibrary.standard_convertsExactly`).
-/

namespace PoissonFactor

open Numeral (digitsValue)

namespace Column

/-- A text that is a number, so that it stands for no missing entry and needs no quotes. -/
def IsNumber (cs : List Char) : Prop :=
  ∃ t : NumberText, t.text = cs

/-- A number that is read for what it is: as the double that is nearest, and as an integer only if
it has 64 bits. -/
structure IsExact (cs : List Char) : Prop where
  number : IsNumber cs
  double : ∃ x, double? cs = some x ∧ Numeral.double? cs = some x
  fits : ∀ i, integer? cs = some i → fitsSigned i = true

/-! ## Reading all entries -/

section

variable {α : Type} {read : List Char → Option α} {cells : List (List Char)}

/-- A column is read entry by entry. -/
theorem readAll_cons (c : List Char) (xs : List (Option (List Char))) :
    readAll read (some c :: xs)
      = (read c).bind fun a => (readAll read xs).map (some a :: ·) := by
  unfold readAll
  rw [List.mapM_cons]
  dsimp only
  cases read c with
  | none => rfl
  | some a =>
    simp only [Option.map_some, Option.bind_eq_bind, Option.bind_some, Option.pure_def]
    generalize (List.mapM _ xs : Option (List (Option α))) = rest
    cases rest
    all_goals rfl

/-- It is read if every entry is. -/
theorem readAll_eq_some {f : List Char → α} (h : ∀ c ∈ cells, read c = some (f c)) :
    readAll read (cells.map some) = some (cells.map fun c => some (f c)) := by
  induction cells with
  | nil => rfl
  | cons c cells ih =>
    obtain ⟨hc, hcells⟩ := List.forall_mem_cons.mp h
    rw [List.map_cons, readAll_cons, hc, ih hcells]
    rfl

/-- It is not read if one entry is not. -/
theorem readAll_eq_none {c : List Char} (hc : c ∈ cells) (h : read c = none) :
    readAll read (cells.map some) = none := by
  induction cells with
  | nil => cases hc
  | cons d cells ih =>
    rw [List.map_cons, readAll_cons]
    rcases List.mem_cons.mp hc with rfl | hmem
    · rw [h]
      rfl
    · rw [ih hmem]
      cases read d
      all_goals rfl

end

/-! ## Numbers -/

theorem IsInteger.isNumber {cs : List Char} {i : Int} (h : IsInteger cs i) : IsNumber cs := by
  obtain ⟨t, ht, -⟩ := h
  exact ⟨t, ht⟩

/-- An integer is read as it is. -/
theorem IsInteger.integer? {cs : List Char} {i : Int} (h : IsInteger cs i) :
    integer? cs = some i := by
  obtain ⟨t, rfl, hwhole, rfl, -⟩ := h
  exact t.integer?_text hwhole

/-- What is read as an integer is one. -/
theorem isInteger_of_integer? {cs : List Char} {i : Int} (hcs : IsNumber cs)
    (hi : Column.integer? cs = some i) (hfits : fitsSigned i = true) : IsInteger cs i := by
  obtain ⟨t, rfl⟩ := hcs
  obtain ⟨hwhole, rfl⟩ := t.isWhole_of_integer? hi
  exact ⟨t, rfl, hwhole, rfl, hfits⟩

/-- No number stands for a missing entry. -/
theorem map_present? {cells : List (List Char)} (h : ∀ c ∈ cells, IsNumber c) :
    cells.map present? = cells.map some := by
  refine List.map_congr_left fun c hc => ?_
  obtain ⟨t, rfl⟩ := h c hc
  exact t.present?_text

/-- An integer as text is a number. -/
theorem isNumber_toString (i : Int) : IsNumber (toString i).toList := by
  have hall : Literal.AllDigits (Nat.toDigits 10 i.natAbs ++ []) := by
    rw [List.append_nil]
    exact Literal.allDigits_toDigits _
  refine ⟨⟨markOf (decide (i < 0)), Nat.toDigits 10 i.natAbs, none, none, hall, ?_⟩, ?_⟩
  · rw [Option.getD_none, List.append_nil]
    exact Nat.toDigits_ne_nil
  · show (markOf (decide (i < 0))).text ++ (Nat.toDigits 10 i.natAbs ++ []) = _
    rw [List.append_nil, text_markOf, Literal.toList_toString_int]

/-- Numbers that are kept as texts. -/
theorem values_keepTexts {cells : List (List Char)} (h : ∀ cs ∈ cells, IsNumber cs) :
    (keepTexts cells).values = cells.map fun cs => .str (String.ofList cs) := by
  unfold keepTexts asTexts values
  dsimp only
  rw [map_present? h, List.map_map, List.map_map]
  rfl

/-! ## Reading a column -/

/-- Integers of 64 bits are read as such. -/
theorem ofTexts_integers {cells : List (List Char)} (hne : cells ≠ [])
    (hcells : ∀ c ∈ cells, IsNumber c) {value : List Char → Int}
    (hvalue : ∀ c ∈ cells, integer? c = some (value c))
    (hfit : ∀ c ∈ cells, fitsSigned (value c) = true) :
    ofTexts cells = .integers (cells.map value) := by
  have hread := readAll_eq_some hvalue
  have hfound : (cells.map fun c => some (value c)).filterMap id = cells.map value := by
    rw [List.filterMap_map]
    show cells.filterMap (some ∘ value) = _
    rw [List.filterMap_eq_map]
  have hall : (cells.map value).all fitsSigned = true := by
    rw [List.all_eq_true]
    intro i hi
    obtain ⟨c, hc, rfl⟩ := List.mem_map.mp hi
    exact hfit c hc
  have hsome : (cells.map fun c => some (value c)).all Option.isSome = true := by
    rw [List.all_eq_true]
    intro o ho
    obtain ⟨c, -, rfl⟩ := List.mem_map.mp ho
    rfl
  unfold ofTexts
  dsimp only
  rw [map_present? hcells, List.isEmpty_eq_false_iff.mpr hne, if_neg Bool.false_ne_true, hread]
  dsimp only
  unfold ofIntegers
  dsimp only
  rw [hfound, hall, if_pos rfl, hsome, if_pos rfl]

/-- A column of integers is read as its integers. -/
theorem reads_integers {cells : List (List Char)} (h : ∀ cs ∈ cells, ∃ i, IsInteger cs i) :
    Reads cells (ofTexts cells).values := by
  rcases eq_or_ne cells [] with rfl | hne
  · exact .integers .nil
  have hvalue : ∀ cs ∈ cells, IsInteger cs ((integer? cs).getD 0) := by
    intro cs hcs
    obtain ⟨i, hi⟩ := h cs hcs
    rwa [hi.integer?]
  have hread : ∀ cs ∈ cells, integer? cs = some ((integer? cs).getD 0) :=
    fun cs hcs => (hvalue cs hcs).integer?
  have hfit : ∀ cs ∈ cells, fitsSigned ((integer? cs).getD 0) = true := by
    intro cs hcs
    obtain ⟨-, -, -, -, hfit⟩ := hvalue cs hcs
    exact hfit
  rw [ofTexts_integers hne (fun cs hcs => (hvalue cs hcs).isNumber) hread hfit]
  refine .integers ?_
  rw [List.forall₂_map_right_iff, List.forall₂_same]
  exact hvalue

/-- Numbers of which not all are integers are read as doubles. -/
theorem ofTexts_doubles {cells : List (List Char)} (hcells : ∀ c ∈ cells, IsNumber c)
    (hother : ∃ c ∈ cells, integer? c = none) {value : List Char → Float}
    (hvalue : ∀ c ∈ cells, double? c = some (value c)) :
    ofTexts cells = .doubles (cells.map value) := by
  obtain ⟨c, hc, hnone⟩ := hother
  unfold ofTexts
  dsimp only
  rw [map_present? hcells, List.isEmpty_eq_false_iff.mpr (List.ne_nil_of_mem hc),
    if_neg Bool.false_ne_true, readAll_eq_none hc hnone, readAll_eq_some hvalue]
  dsimp only
  rw [List.map_map]
  rfl

/-- **A column of numbers is read exactly**, if each of them is. -/
theorem reads_ofTexts {cells : List (List Char)} (h : ∀ cs ∈ cells, IsExact cs) :
    Reads cells (ofTexts cells).values := by
  -- One number that is no integer makes all of them doubles.
  by_cases hother : ∃ cs ∈ cells, integer? cs = none
  · have hvalue : ∀ cs ∈ cells, double? cs = some ((double? cs).getD 0)
        ∧ Numeral.double? cs = some ((double? cs).getD 0) := by
      intro cs hcs
      obtain ⟨x, hx, hnearest⟩ := (h cs hcs).double
      rw [hx]
      exact ⟨rfl, hnearest⟩
    rw [ofTexts_doubles (fun cs hcs => (h cs hcs).number) hother fun cs hcs => (hvalue cs hcs).1]
    refine .doubles ?_ ?_
    · rw [List.forall₂_map_right_iff, List.forall₂_same]
      exact fun cs hcs => (hvalue cs hcs).2
    · obtain ⟨cs, hcs, hnone⟩ := hother
      refine ⟨cs, hcs, fun i hi => ?_⟩
      rw [hi.integer?] at hnone
      cases hnone
  · refine reads_integers fun cs hcs => ?_
    cases hi : integer? cs with
    | none => exact absurd ⟨cs, hcs, hi⟩ hother
    | some i => exact ⟨i, isInteger_of_integer? (h cs hcs).number hi ((h cs hcs).fits i hi)⟩

/-! ## Short numbers -/

/-- Short doubles are finite. -/
theorem isFinite_of_isShort {x : Float} (h : Decimal.IsShort x) : Decimal.isFinite x = true := by
  obtain ⟨negative, n, k, hn, -, rfl⟩ := h
  have hden : 0 < 10 ^ k := by positivity
  exact Decimal.isFinite_nearest hden (Decimal.div_lt_of_lt hden (by omega)) negative

/-- What is written for a short double is read exactly. -/
theorem isExact_plain {x : Float} (h : Decimal.IsShort x) :
    IsExact (Decimal.plain x).toList := by
  have hfinite := isFinite_of_isShort h
  obtain ⟨t, ht, hother⟩ := exists_text_plain hfinite
  have hread := decimal?_plain h
  have hnearest := double?_plain hfinite
  rw [← ht] at hread hnearest ⊢
  refine ⟨⟨t, rfl⟩, ⟨x, t.double?_text hread, hnearest⟩, fun i hi => ?_⟩
  rw [t.integer?_text_eq_none hother] at hi
  cases hi

end Column

namespace NumberText

/-- A plain number of fifteen digits, besides zeros in front, of which the reader takes up all. -/
structure IsShort (t : NumberText) : Prop where
  plain : t.exponent = none
  few : digitsValue (t.whole ++ t.places) < 10 ^ 15
  length : (t.whole ++ t.places).length ≤ 17
  places : t.places.length ≤ 16

variable {t : NumberText}

/-- The double of a short number is its digits, divided once. -/
theorem IsShort.double_eq (h : t.IsShort) : t.double
    = Decimal.nearest t.mark.isNegative (digitsValue (t.whole ++ t.places))
      (10 ^ t.places.length) := by
  have hplaces := h.places
  unfold double Decimal.ofDecimal
  rw [h.plain, Option.getD_none, Int.zero_sub, Int.neg_neg, Int.toNat_natCast]
  dsimp only
  split_ifs with hzero hlarge hsmall hwhole
  · rw [hzero, Decimal.nearest_zero]
  · omega
  · omega
  · have hnone : t.places.length = 0 := by omega
    rw [hnone]
    simp
  · rfl

/-- So the double of a short number is short. -/
theorem IsShort.isShort_double (h : t.IsShort) : Decimal.IsShort t.double :=
  ⟨_, _, _, h.few, h.places, h.double_eq⟩

/-- An integer that is short has no more digits. -/
theorem IsShort.natAbs_integer_lt (h : t.IsShort) (hwhole : t.IsWhole) :
    t.integer.natAbs < 10 ^ 15 := by
  have hfew := h.few
  rw [(pointed_of_none hwhole.1).1, List.append_nil] at hfew
  unfold integer
  split_ifs
  · rwa [Int.natAbs_neg, Int.natAbs_natCast]
  · rwa [Int.natAbs_natCast]

/-- **A short number is read exactly.** -/
theorem IsShort.isExact (h : t.IsShort) : Column.IsExact t.text := by
  have hread : Column.decimal? t.text = some t.double := by
    have hplaces := h.places
    rw [t.decimal?_text, h.plain, h.double_eq]
    refine Decimal.readScaled?_of_lt t.allDigits h.length h.few ?_ (by omega) _
    show (0 : Int) - (t.places.length : Int) = _
    omega
  refine ⟨⟨t, rfl⟩, ⟨t.double, t.double?_text hread, t.numeral_double?_text⟩, fun i hi => ?_⟩
  obtain ⟨hwhole, rfl⟩ := t.isWhole_of_integer? hi
  have hsmall := h.natAbs_integer_lt hwhole
  unfold Column.fitsSigned
  rw [Bool.and_eq_true, decide_eq_true_iff, decide_eq_true_iff]
  omega

end NumberText

namespace Column

/-- Numbers of which all digits are taken up give short doubles. -/
theorem Reads.isShort {cells : List (List Char)} {vs : List Value} (h : Reads cells vs)
    (hcells : ∀ cs ∈ cells, ∃ t : NumberText, t.text = cs ∧ t.IsShort) :
    ∀ x ∈ vs.map Column.double, Decimal.IsShort x := by
  intro x hx
  rw [List.mem_map] at hx
  obtain ⟨v, hv, rfl⟩ := hx
  cases h with
  | integers h =>
    obtain ⟨i, hi, rfl⟩ := List.mem_map.mp hv
    obtain ⟨cs, hcs, hinteger⟩ := exists_of_forall₂ h hi
    obtain ⟨t, rfl, hshort⟩ := hcells cs hcs
    obtain ⟨hwhole, rfl⟩ := t.isWhole_of_integer? hinteger.integer?
    exact ⟨_, _, 0, hshort.natAbs_integer_lt hwhole, Nat.zero_le _, rfl⟩
  | doubles h _ =>
    obtain ⟨y, hy, rfl⟩ := List.mem_map.mp hv
    obtain ⟨cs, hcs, hread⟩ := exists_of_forall₂ h hy
    obtain ⟨t, rfl, hshort⟩ := hcells cs hcs
    rw [t.numeral_double?_text] at hread
    rw [← Option.some.inj hread]
    exact hshort.isShort_double

/-! ## Converting a column -/

/-- Every number that was read has a double. -/
theorem Reads.toFloat {cells : List (List Char)} {vs : List Value} (h : Reads cells vs) :
    ∀ v ∈ vs, v.toFloat = .ok (Column.double v) := by
  intro v hv
  cases h with
  | integers h =>
    obtain ⟨i, hi, rfl⟩ := List.mem_map.mp hv
    obtain ⟨cs, -, -, -, -, -, hfits⟩ := exists_of_forall₂ h hi
    show (if Decimal.isFinite (Decimal.ofInteger i) then _ else _) = _
    rw [if_pos (isFinite_ofInteger hfits)]
    rfl
  | doubles _ _ =>
    obtain ⟨x, -, rfl⟩ := List.mem_map.mp hv
    rfl

end Column

/-- **What was read exactly is converted exactly.** -/
theorem TableLibrary.standard_convertsExactly : @TableLibrary.ConvertsExactly .standard := by
  refine @TableLibrary.ConvertsExactly.mk .standard ?_ ?_
  · intro c is hc
    show (Column.toTexts c).values = _
    unfold Column.toTexts
    rw [hc]
    unfold Column.values
    dsimp only
    rw [List.map_map, List.map_map]
    refine List.map_congr_left fun i _ => ?_
    show Value.str (String.ofList (toString i).toList) = _
    rw [String.ofList_toList]
  · intro c cells hc
    refine ⟨.doubles (c.values.map Column.double), ?_, ?_⟩
    · exact bind_eq_ok_iff.mpr ⟨_, mapM_eq_map hc.toFloat, rfl⟩
    · show (c.values.map Column.double).map Value.float = _
      rw [List.map_map]
      rfl

end PoissonFactor
