import Mathlib.Algebra.Order.Ring.Rat
import Mathlib.Data.List.Lex
import Mathlib.Data.Nat.Cast.Order.Ring
import Mathlib.Data.Sum.Order
import Mathlib.Order.Fin.Basic
import Mathlib.Order.WithBot
import PoissonFactor.Value.Order

/-!
# The order of keys

Keys come from types that have nothing in common, so *the same key* and *comes before* are
decided case by case. Both can be read off one linear order: a key is written as a run of
marks, and runs are compared as words are.

> `Value.marks_eq_of_same` and `Value.marks_lt_of_before`: the same key has the same marks,
> and a key that comes before another has the lower ones.

A tuple is written as the marks of its members between two marks of its own. The one that ends
it lies below all others, so a tuple comes before every longer one that it begins.
-/

namespace PoissonFactor

/-! ## Exact numbers in a linear order -/

/-- The place of a number among all numbers and the two infinities. -/
def Extended.place : Extended → WithBot (WithTop ℚ)
  | .nan | .negative => ⊥
  | .finite r => ((r : WithTop ℚ) : WithBot (WithTop ℚ))
  | .positive => ((⊤ : WithTop ℚ) : WithBot (WithTop ℚ))

/-- Extended numbers keep their order when they are placed. -/
theorem Extended.place_lt_place {a b : Extended} (h : a.lt b = true) : a.place < b.place := by
  cases a <;> cases b <;> simp_all [Extended.lt, Extended.place]
  case finite.positive r => exact WithBot.coe_lt_coe.mpr (WithTop.coe_lt_top r)

theorem Extended.place_eq_place {a b : Extended} (h : a.eq b = true) : a.place = b.place := by
  cases a <;> cases b <;> simp_all [Extended.eq, Extended.place]

namespace Value

/-! ## Keys as runs of marks -/

/-- A mark is the place of a number or a text. Below all of them is the mark that ends a run. -/
abbrev Mark := WithBot (WithBot (WithTop ℚ) ⊕ₗ List Text.Point)

/-- The mark of a place. -/
def Mark.place (p : WithBot (WithTop ℚ)) : Mark := ((Sum.inlₗ p : _ ⊕ₗ List Text.Point) : Mark)

/-- The mark of a text. -/
def Mark.text (ps : List Text.Point) : Mark := ((Sum.inrₗ ps : WithBot (WithTop ℚ) ⊕ₗ _) : Mark)

/-- Marks of numbers are ordered as their places. -/
theorem Mark.place_lt_place {p q : WithBot (WithTop ℚ)} (h : p < q) : Mark.place p < Mark.place q :=
  WithBot.coe_lt_coe.mpr (Sum.Lex.inl_lt_inl_iff.mpr h)

/-- Marks of texts are ordered as the texts are, code point by code point. -/
theorem Mark.text_lt_text {ps qs : List Text.Point} (h : ps < qs) : Mark.text ps < Mark.text qs :=
  WithBot.coe_lt_coe.mpr (Sum.Lex.inr_lt_inr_iff.mpr h)

mutual

/-- A key as a run of marks. -/
def marks : Value → List Mark
  | .str s => [.text (Text.pointsOf s.toList)]
  | .illformed t => [.text t.points]
  | .bytes b => .place ⊥ :: (b.map fun x => .place ((x.toNat : ℚ) : WithTop ℚ)) ++ [⊥]
  | .tuple items => .place ⊥ :: itemMarks items
  | v =>
    match v.parts? with
    | some (re, _) => [.place re.exact.place]
    | none => [.place ⊥]

/-- The marks of a run of keys and the mark that ends it. -/
def itemMarks : List Value → List Mark
  | [] => [⊥]
  | v :: rest => marks v ++ itemMarks rest

end

/-- A number has one mark, whatever its type. -/
theorem marks_of_parts {v : Value} {x y : Number} (h : v.parts? = some (x, y)) :
    marks v = [.place x.exact.place] := by
  cases v <;> simp_all [marks, parts?, number?]

/-- Complex numbers are the same if both their parts are. -/
theorem same_of_parts {a b : Value} {x y x' y' : Number} (ha : a.parts? = some (x, y))
    (hb : b.parts? = some (x', y')) : same a b = (x.eq x' && y.eq y') := by
  cases a <;> cases ha <;> cases b <;> cases hb <;> rfl

/-- A text has one mark, its code points. -/
theorem marks_of_points {v : Value} {ps : List Text.Point} (h : v.points? = some ps) :
    marks v = [.text ps] := by
  cases v with
  | str s => rw [marks, Option.some.inj h]
  | illformed t => rw [marks, Option.some.inj h]
  | _ => cases h

/-- The marks of a key begin with one that ends nothing. -/
theorem exists_marks_eq_cons (v : Value) : ∃ m rest, marks v = m :: rest ∧ ⊥ < m := by
  have hbot (p : WithBot (WithTop ℚ)) : ⊥ < Mark.place p := WithBot.bot_lt_coe _
  cases v with
  | str s => exact ⟨_, _, rfl, WithBot.bot_lt_coe _⟩
  | illformed t => exact ⟨_, _, rfl, WithBot.bot_lt_coe _⟩
  | _ => exact ⟨_, _, rfl, hbot _⟩

/-- Values that count as one have the same marks, by induction on both. -/
theorem marks_and_itemMarks_eq_of_same :
    (∀ a b : Value, same a b = true → marks a = marks b)
      ∧ ∀ as bs : List Value, sameItems as bs = true → itemMarks as = itemMarks bs := by
  refine Value.same.mutual_induct _ _ ?null ?ellipsis ?text ?illformed ?bytes ?tuple ?number ?other
    ?nil ?cons ?lengths
  case null => intro _; rfl
  case ellipsis => intro _; rfl
  case text =>
    intro s t h
    rw [same, beq_iff_eq] at h
    rw [h]
  case illformed =>
    intro s t h
    rw [same, beq_iff_eq] at h
    rw [h]
  case bytes =>
    intro s t h
    rw [same, beq_iff_eq] at h
    rw [h]
  case tuple =>
    intro as bs ih h
    rw [same] at h
    rw [marks, marks, ih h]
  case number =>
    intro a b _ _ _ _ _ _ x y x' y' hb ha h
    rw [same_of_parts ha hb, Bool.and_eq_true] at h
    rw [marks_of_parts ha, marks_of_parts hb, Extended.place_eq_place h.1]
  case other =>
    intro a b hnull hellipsis htext hillformed hbytes htuple hparts h
    unfold same at h
    split at h
    · exact (hnull rfl rfl).elim
    · exact (hellipsis rfl rfl).elim
    · exact (htext _ _ rfl rfl).elim
    · exact (hillformed _ _ rfl rfl).elim
    · exact (hbytes _ _ rfl rfl).elim
    · exact (htuple _ _ rfl rfl).elim
    · split at h
      · rename_i ha hb
        exact (hparts _ _ _ _ ha hb).elim
      · cases h
  case nil => intro _; rfl
  case cons =>
    intro a as b bs iha ihas h
    rw [sameItems, Bool.and_eq_true] at h
    rw [itemMarks, itemMarks, iha h.1, ihas h.2]
  case lengths =>
    intro as bs hnil hcons h
    cases as <;> cases bs <;> simp_all [sameItems]

/-- The same key has the same marks. -/
theorem marks_eq_of_same {a b : Value} (h : same a b = true) : marks a = marks b :=
  marks_and_itemMarks_eq_of_same.1 a b h

/-! ## The order of marks -/

theorem cons_lt_cons {a : Mark} {as bs : List Mark} (h : as < bs) : a :: as < a :: bs :=
  List.cons_lt_cons_self.mpr h

/-- A run of bytes that comes first has the lower marks, whatever follows. -/
theorem byteMarks_lt {a b : List UInt8} (h : a < b) (xs ys : List Mark) :
    (a.map fun x => Mark.place ((x.toNat : ℚ) : WithTop ℚ)) ++ ⊥ :: xs
      < (b.map fun x => Mark.place ((x.toNat : ℚ) : WithTop ℚ)) ++ ⊥ :: ys := by
  induction h with
  | nil => exact List.Lex.rel (WithBot.bot_lt_coe _)
  | cons _ ih => exact cons_lt_cons ih
  | rel hlt =>
    refine List.Lex.rel (Mark.place_lt_place ?_)
    rw [WithBot.coe_lt_coe, WithTop.coe_lt_coe, Nat.cast_lt]
    exact hlt

/-- Texts are ordered by their code points. -/
theorem before_of_points {a b : Value} {ps qs : List Text.Point} (ha : a.points? = some ps)
    (hb : b.points? = some qs) : before a b = decide (ps < qs) := by
  cases a <;> cases ha <;> cases b <;> cases hb <;> rfl

/-- Numbers are ordered by their values. -/
theorem before_of_number {a b : Value} {m n : Number} (ha : a.number? = some m)
    (hb : b.number? = some n) : before a b = m.lt n := by
  cases a <;> cases ha <;> cases b <;> cases hb <;> rfl

theorem parts_of_number {a : Value} {m : Number} (h : a.number? = some m) :
    a.parts? = some (m, .int 0) := by
  cases a <;> cases h <;> rfl

/-- Nothing else has an order. -/
theorem before_eq_false {a b : Value} (hbytes : ∀ s t, a = .bytes s → b = .bytes t → False)
    (htuple : ∀ as bs, a = .tuple as → b = .tuple bs → False)
    (htext : ∀ ps qs, a.points? = some ps → b.points? = some qs → False)
    (hnumber : ∀ m n, a.number? = some m → b.number? = some n → False) : before a b = false := by
  unfold before
  split
  · exact (hbytes _ _ rfl rfl).elim
  · exact (htuple _ _ rfl rfl).elim
  · split
    next ha hb => exact (htext _ _ ha hb).elim
    next =>
      split
      next ha hb => exact (hnumber _ _ ha hb).elim
      next => rfl

/-- What comes first has the lower marks, whatever follows. -/
theorem marks_append_lt_of_before :
    (∀ a b : Value, before a b = true → ∀ xs ys, marks a ++ xs < marks b ++ ys)
      ∧ ∀ as bs : List Value, beforeItems as bs = true →
        ∀ xs ys, itemMarks as ++ xs < itemMarks bs ++ ys := by
  refine Value.before.mutual_induct _ _ ?bytes ?tuple ?text ?number ?other ?none ?shorter ?agree
    ?differ
  case bytes =>
    intro s t h xs ys
    rw [before, decide_eq_true_iff] at h
    rw [marks, marks]
    simpa using byteMarks_lt h xs ys
  case tuple =>
    intro as bs ih h xs ys
    rw [before] at h
    exact cons_lt_cons (ih h xs ys)
  case text =>
    intro a b _ _ ps qs hb ha h xs ys
    rw [before_of_points ha hb, decide_eq_true_iff] at h
    rw [marks_of_points ha, marks_of_points hb]
    exact List.Lex.rel (Mark.text_lt_text h)
  case number =>
    intro a b _ _ m n hb ha _ h xs ys
    rw [before_of_number ha hb] at h
    rw [marks_of_parts (parts_of_number ha), marks_of_parts (parts_of_number hb)]
    exact List.Lex.rel (Mark.place_lt_place (Extended.place_lt_place h))
  case other =>
    intro a b hbytes htuple htext hnumber h
    rw [before_eq_false hbytes htuple htext hnumber] at h
    cases h
  case none =>
    intro as h
    cases as <;> cases h
  case shorter =>
    intro b bs _ xs ys
    obtain ⟨m, rest, hb, hm⟩ := exists_marks_eq_cons b
    rw [itemMarks, itemMarks, hb]
    exact List.Lex.rel hm
  case agree =>
    intro a as b bs hsame ih h xs ys
    rw [beforeItems, if_pos hsame] at h
    rw [itemMarks, itemMarks, marks_eq_of_same hsame, List.append_assoc, List.append_assoc]
    exact List.append_left_lt (ih h xs ys)
  case differ =>
    intro a as b bs hsame ih h xs ys
    rw [beforeItems, if_neg hsame] at h
    rw [itemMarks, itemMarks, List.append_assoc, List.append_assoc]
    exact ih h _ _

/-- A key that comes before another has the lower marks. -/
theorem marks_lt_of_before {a b : Value} (h : before a b = true) : marks a < marks b := by
  simpa using marks_append_lt_of_before.1 a b h [] []

/-- What is before something can be compared with it. -/
theorem ordered_and_orderedItems_of_before :
    (∀ a b : Value, before a b = true → ordered a b = true)
      ∧ ∀ as bs : List Value, beforeItems as bs = true → orderedItems as bs = true := by
  refine Value.before.mutual_induct _ _ ?bytes ?tuple ?text ?number ?other ?none ?shorter ?agree
    ?differ
  case bytes => intro s t _; rfl
  case tuple =>
    intro as bs ih h
    rw [before] at h
    rw [ordered, ih h]
  case text =>
    intro a b _ _ ps qs hb ha _
    cases a <;> cases ha <;> cases b <;> cases hb <;> rfl
  case number =>
    intro a b _ _ m n hb ha _ _
    cases a <;> cases ha <;> cases b <;> cases hb <;> rfl
  case other =>
    intro a b hbytes htuple htext hnumber h
    rw [before_eq_false hbytes htuple htext hnumber] at h
    cases h
  case none =>
    intro as h
    cases as <;> cases h
  case shorter => intro b bs _; rfl
  case agree =>
    intro a as b bs hsame ih h
    rw [beforeItems, if_pos hsame] at h
    rw [orderedItems, if_pos hsame, ih h]
  case differ =>
    intro a as b bs hsame ih h
    rw [beforeItems, if_neg hsame] at h
    rw [orderedItems, if_neg hsame, ih h]

/-- A key that comes before another has an order with it. -/
theorem ordered_of_before {a b : Value} (h : before a b = true) : ordered a b = true :=
  ordered_and_orderedItems_of_before.1 a b h

end Value

end PoissonFactor
