import PoissonFactor.Proofs.Decimal.Scaled
import PoissonFactor.Proofs.Outcome
import PoissonFactor.Proofs.Table.Format
import PoissonFactor.Proofs.Table.Written
import PoissonFactor.Table.Library

/-!
# Tables that are read and written exactly

What a program relies on when another library reads and writes its tables is that columns of plain
numbers are read, converted and written exactly. Here it is said what that means, one function of
the library and one table at a time: `TableLibrary.ReadsExactly`, `TableLibrary.WritesExactly` and
`TableLibrary.ConvertsExactly`. None of it says anything about columns that hold something else, or
about texts that are no tables.

A double that was written is read as the same double (`Column.Reads.eq_of_plain`), for its shortest
digits are nearer to it than to any other. So nothing is lost when a table that was read exactly is
written exactly and read once more.
-/

namespace PoissonFactor

open Numeral (digitsValue)

namespace Column

/-! ## Numbers in cells -/

/-- A plain integer of 64 bits: a sign or none, and digits, with zeros in front or without. -/
def IsInteger (cs : List Char) (i : Int) : Prop :=
  ∃ t : NumberText, t.text = cs ∧ t.IsWhole ∧ t.integer = i ∧ fitsSigned i = true

/-- A plain decimal of at most fifteen significant digits: a sign or none, digits, and perhaps a
point with more. Zeros in front are not significant, and neither are those at the end behind the
point. -/
def IsDecimal (cs : List Char) : Prop :=
  ∃ t : NumberText, t.text = cs ∧ t.exponent = none ∧ ∃ n k : Nat,
    digitsValue (t.whole ++ t.places) = n * 10 ^ k ∧ n < 10 ^ 15 ∧ k ≤ t.places.length

/-- The entries of a column of numbers that is read exactly: the integers, if there is nothing
else, and otherwise the doubles that are nearest. -/
inductive Reads (cells : List (List Char)) : List Value → Prop
  | integers {is : List Int} (h : List.Forall₂ IsInteger cells is) : Reads cells (is.map .int)
  | doubles {xs : List Float} (h : List.Forall₂ (fun cs x => Numeral.double? cs = some x) cells xs)
      (hother : ∃ cs ∈ cells, ∀ i, ¬ IsInteger cs i) : Reads cells (xs.map .float)

theorem Reads.length_eq {cells : List (List Char)} {vs : List Value} (h : Reads cells vs) :
    vs.length = cells.length := by
  cases h with
  | integers h => rw [List.length_map, h.length_eq]
  | doubles h _ => rw [List.length_map, h.length_eq]

/-- A column of integers is read as integers. -/
theorem Reads.of_integers {cells : List (List Char)} {vs : List Value} (h : Reads cells vs)
    (hcells : ∀ cs ∈ cells, ∃ i, IsInteger cs i) :
    ∃ is, vs = is.map .int ∧ List.Forall₂ IsInteger cells is := by
  cases h with
  | @integers is h => exact ⟨is, rfl, h⟩
  | doubles _ hother =>
    obtain ⟨cs, hcs, hnone⟩ := hother
    obtain ⟨i, hi⟩ := hcells cs hcs
    exact absurd hi (hnone i)

/-- A number is not missing. -/
theorem isMissing_float {x : Float} (h : Decimal.isFinite x = true) :
    isMissing (.float x) = false := by
  obtain ⟨negative, m, q, hparts⟩ := Literal.exists_parts h
  show Decimal.isNaN x = false
  unfold Decimal.isNaN
  rw [hparts]

/-- Every integer of 64 bits has a finite double. -/
theorem isFinite_ofInteger {i : Int} (h : fitsSigned i = true) :
    Decimal.isFinite (Decimal.ofInteger i) = true := by
  unfold fitsSigned at h
  rw [Bool.and_eq_true, decide_eq_true_iff, decide_eq_true_iff] at h
  exact Decimal.isFinite_nearest one_pos (Decimal.div_lt_of_lt one_pos (by omega)) _

/-- Fifteen digits are far from too many for a double. -/
theorem IsDecimal.isFinite {cs : List Char} (h : IsDecimal cs) {x : Float}
    (hx : Numeral.double? cs = some x) : Decimal.isFinite x = true := by
  obtain ⟨t, rfl, hexponent, n, k, hdigits, hn, hk⟩ := h
  -- Without the zeros at the end the digits are not divided, and they were few before.
  have hvalue : (digitsValue (t.whole ++ t.places) : ℚ) / (10 ^ t.places.length : Nat) ≤ n := by
    have hpow : 10 ^ k ≤ 10 ^ t.places.length := Nat.pow_le_pow_right (by decide) hk
    rw [hdigits, div_le_iff₀ (Nat.cast_pos.mpr (by positivity))]
    exact_mod_cast Nat.mul_le_mul_left n hpow
  rw [t.numeral_double?_text] at hx
  rw [← Option.some.inj hx]
  unfold NumberText.double
  rw [hexponent, Option.getD_none, Int.zero_sub]
  refine Decimal.isFinite_ofDecimal (by omega) ?_ _
  rw [Int.neg_neg, Int.toNat_natCast]
  have hsmall := Decimal.div_lt_of_lt one_pos (show n < 10 ^ 20 by omega)
  rw [Nat.cast_one, div_one] at hsmall
  exact hvalue.trans_lt hsmall

/-- Decimals are read as finite doubles, and so are integers once they are made doubles. -/
theorem Reads.isFinite {cells : List (List Char)} {vs : List Value} (h : Reads cells vs)
    (hcells : ∀ cs ∈ cells, IsDecimal cs) :
    ∀ x ∈ vs.map double, Decimal.isFinite x = true := by
  intro x hx
  rw [List.mem_map] at hx
  obtain ⟨v, hv, rfl⟩ := hx
  cases h with
  | integers h =>
    obtain ⟨i, hi, rfl⟩ := List.mem_map.mp hv
    obtain ⟨cs, -, t, -, -, -, hfit⟩ := exists_of_forall₂ h hi
    exact isFinite_ofInteger hfit
  | doubles h _ =>
    obtain ⟨y, hy, rfl⟩ := List.mem_map.mp hv
    obtain ⟨cs, hcs, hread⟩ := exists_of_forall₂ h hy
    exact (hcells cs hcs).isFinite hread

/-- The text of a double has a point or an exponent, and so it is no integer. -/
theorem not_isInteger_plain {x : Float} (h : Decimal.isFinite x = true) (i : Int) :
    ¬ IsInteger (Decimal.plain x).toList i := by
  rintro ⟨t, ht, hwhole, -⟩
  obtain ⟨t', ht', hother⟩ := exists_text_plain h
  have hinteger := t.integer?_text hwhole
  rw [ht, ← ht', t'.integer?_text_eq_none hother] at hinteger
  cases hinteger

/-- **Doubles that were written are read as they were.** -/
theorem Reads.eq_of_plain {xs : List Float} {vs : List Value}
    (h : Reads (xs.map fun x => (Decimal.plain x).toList) vs)
    (hfinite : ∀ x ∈ xs, Decimal.isFinite x = true) : vs = xs.map .float := by
  cases h with
  | integers h =>
    -- Only a column without entries is read as integers.
    cases xs with
    | nil =>
      cases h
      rfl
    | cons x xs =>
      obtain ⟨i, -, hi, -⟩ := List.forall₂_cons_left_iff.mp h
      exact absurd hi (not_isInteger_plain (hfinite x List.mem_cons_self) i)
  | @doubles ys h hother =>
    clear hother
    congr 1
    rw [List.forall₂_map_left_iff] at h
    induction h with
    | nil => rfl
    | @cons x y xs ys hx _ ih =>
      obtain ⟨hfirst, hfinite⟩ := List.forall_mem_cons.mp hfinite
      rw [double?_plain hfirst] at hx
      rw [Option.some.inj hx, ih hfinite]

end Column

/-! ## Frames -/

/-- What the frame of a table has under a name: the texts of the column, if texts are to be kept,
or its numbers; and nothing, if the table has no such column. -/
structure Frame.HoldsExactly (f : Frame) (g : Delimited.Grid) (textNames : List String)
    (name : String) : Prop where
  texts : name ∈ g.names → name ∈ textNames →
    ∃ c, f.column? name = some c ∧ c.values = (g.cells name).map fun cs => .str (String.ofList cs)
  numbers : name ∈ g.names → name ∉ textNames →
    ∃ c, f.column? name = some c ∧ Column.Reads (g.cells name) c.values
  absent : name ∉ g.names → f.column? name = none

namespace TableLibrary

variable [TableLibrary]

/-- Of a table, in whatever text it is written, columns are read exactly. -/
def ReadsExactly (g : Delimited.Grid) (textNames names : List String) : Prop :=
  ∀ cs, g.IsWrittenAs cs → ∃ f, read textNames .null (cs.flatMap String.utf8EncodeChar) = .ok f
    ∧ ∀ name ∈ names, f.HoldsExactly g textNames name

/-- A frame is written as a text of this table. -/
def WritesExactly (f : Frame) (g : Delimited.Grid) : Prop :=
  ∃ cs, g.IsWrittenAs cs ∧ write f = cs.flatMap String.utf8EncodeChar

/-- Integers become the texts of their digits, and numbers the doubles nearest to them. -/
structure ConvertsExactly : Prop where
  texts : ∀ (c : Column) (is : List Int), c.values = is.map .int →
    (toTexts c).values = is.map fun i => .str (toString i)
  doubles : ∀ (c : Column) (cells : List (List Char)), Column.Reads cells c.values →
    ∃ d, toDoubles c = .ok d ∧ d.values = c.values.map fun v => .float (Column.double v)

end TableLibrary

end PoissonFactor
