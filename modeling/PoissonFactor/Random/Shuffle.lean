import PoissonFactor.Random.Twister

/-!
# A seeded shuffle

From the last position down to the second, each entry changes places with one at
or below it. The order depends on the seed and the length alone.
-/

namespace PoissonFactor.Random

/-- Exchanges the entry at `i` with one at or below it, then goes on below `i`. -/
def shuffleFrom {α : Type} : Nat → Twister → Array α → Array α
  | 0, _, xs => xs
  | i + 1, t, xs =>
    let (j, t) := t.below (i + 2)
    shuffleFrom i t (xs.swapIfInBounds (i + 1) j)

/-- A shuffled array. -/
def shuffle {α : Type} (seed : Nat) (xs : Array α) : Array α :=
  shuffleFrom (xs.size - 1) (Twister.ofSeed seed) xs

/-- The numbers below `n` in shuffled order. -/
def order (seed n : Nat) : List Nat :=
  (shuffle seed (Array.range n)).toList

/-- Shuffling only rearranges. -/
theorem shuffleFrom_perm {α : Type} (i : Nat) (t : Twister) (xs : Array α) :
    (shuffleFrom i t xs).Perm xs := by
  induction i generalizing t xs with
  | zero => exact Array.Perm.refl xs
  | succ i ih =>
    simp only [shuffleFrom]
    refine (ih _ _).trans ?_
    unfold Array.swapIfInBounds
    split
    · split
      · exact Array.swap_perm _ _
      · exact Array.Perm.refl xs
    · exact Array.Perm.refl xs

theorem shuffle_perm {α : Type} (seed : Nat) (xs : Array α) : (shuffle seed xs).Perm xs :=
  shuffleFrom_perm _ _ _

end PoissonFactor.Random
