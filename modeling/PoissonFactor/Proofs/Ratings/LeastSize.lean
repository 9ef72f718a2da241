import Mathlib.Order.Bounds.Basic
import PoissonFactor.Proofs.Outcome
import PoissonFactor.Ratings.Split

/-!
# The sizes that ratings need

Ratings that are numbered already may come without the number of rows. Then the indexes have
as many as the ratings need:

> `Split.isLeast_leastSize`: no smaller number of rows lies above every row number.

Row numbers below zero need no rows at all, so that the sizes are right even where the ratings
are not.
-/

namespace PoissonFactor

/-- A rating as a triple of values. -/
def Rating.triple (r : Rating) : Value :=
  .tuple [.int r.user, .int r.item, .float r.value]

namespace Split

theorem foldl_max_le_iff {row : Rating → Int} {ratings : List Rating} {least n : Int} :
    ratings.foldl (fun m r => max m (row r + 1)) least ≤ n
      ↔ least ≤ n ∧ ∀ r ∈ ratings, row r < n := by
  induction ratings generalizing least with
  | nil => simp
  | cons r rest ih =>
    rw [List.foldl_cons, ih, Int.max_le, List.forall_mem_cons, Int.add_one_le_iff, and_assoc]

/-- A table has the least number of rows or more just when it has every row. -/
theorem leastSize_le_iff {row : Rating → Int} {ratings : List Rating} {n : Nat} :
    (leastSize row ratings).toNat ≤ n ↔ ∀ r ∈ ratings, row r < n := by
  rw [Int.toNat_le]
  cases ratings with
  | nil => simp [leastSize]
  | cons r rest =>
    unfold leastSize
    rw [foldl_max_le_iff, List.forall_mem_cons, Int.add_one_le_iff]

/-- The number of rows that ratings need. -/
theorem isLeast_leastSize (row : Rating → Int) (ratings : List Rating) :
    IsLeast {n : Nat | ∀ r ∈ ratings, row r < n} (leastSize row ratings).toNat :=
  ⟨leastSize_le_iff.mp le_rfl, fun _ hn => leastSize_le_iff.mpr hn⟩

/-- Without given sizes a split has those that its ratings need. -/
theorem sizes_of_ofTriples {train validation : List Value} {s : Split}
    (h : ofTriples train validation none none = .ok s) :
    s.users = .dense (leastSize Rating.user (s.train ++ s.validation)).toNat
      ∧ s.items = .dense (leastSize Rating.item (s.train ++ s.validation)).toNat := by
  obtain ⟨train', -, h⟩ := bind_eq_ok_iff.mp h
  obtain ⟨validation', -, h⟩ := bind_eq_ok_iff.mp h
  cases h
  exact ⟨rfl, rfl⟩

theorem mapM_rating_triple (ratings : List Rating) :
    (ratings.map Rating.triple).mapM rating = .ok ratings := by
  rw [List.mapM_map]
  exact mapM_eq_self fun _ _ => rfl

/-- Any ratings have a split of that kind. -/
theorem exists_ofTriples (train validation : List Rating) :
    ∃ s, ofTriples (train.map Rating.triple) (validation.map Rating.triple) none none = .ok s
      ∧ s.train = train ∧ s.validation = validation := by
  refine ⟨_, bind_eq_ok_iff.mpr ⟨train, mapM_rating_triple train,
    bind_eq_ok_iff.mpr ⟨validation, mapM_rating_triple validation, rfl⟩⟩, rfl, rfl⟩

end Split

end PoissonFactor
