import Mathlib.Data.List.Chain
import PoissonFactor.Text.Blank
import PoissonFactor.Text.Printable

/-!
# What does not print

Halving a range of an ascending table counts its elements up to a number (`Text.countUpTo_eq`), so
a character prints when it has an odd number of boundaries up to it (`Text.isPrintable_eq`). No
blank but the space prints (`Text.eq_space_of_isPrintable`).
-/

namespace PoissonFactor.Text

/-- Halving finds the place up to which the elements of a table are at most a number. -/
theorem countUpTo_eq {table : Array Nat} {c k low high : Nat} (hlow : low ≤ k) (hhigh : k ≤ high)
    (hsize : high ≤ table.size) (hbelow : ∀ i < k, table.getD i 0 ≤ c)
    (habove : ∀ i, k ≤ i → i < table.size → c < table.getD i 0) :
    countUpTo table c low high = k := by
  induction low, high using countUpTo.induct table c with
  | case1 low high h middle hle ih =>
    have hmiddle : middle < high := by omega
    have hk : middle < k := by
      by_contra hk
      exact absurd hle (not_le.mpr (habove middle (by omega) (by omega)))
    rw [countUpTo, if_pos h, if_pos hle]
    exact ih (by omega) hhigh hsize
  | case2 low high h middle hle ih =>
    have hk : k ≤ middle := by
      by_contra hk
      exact hle (hbelow middle (by omega))
    rw [countUpTo, if_pos h, if_neg hle]
    exact ih hlow hk (by omega)
  | case3 low high h =>
    rw [countUpTo, if_neg h]
    omega

/-- In an ascending list the elements up to a number come first. -/
theorem getElem_le_iff_of_pairwise {xs : List Nat} (h : xs.Pairwise (· < ·)) (c : Nat) {i : Nat}
    (hi : i < xs.length) : xs[i] ≤ c ↔ i < xs.countP (· ≤ c) := by
  induction xs generalizing i with
  | nil => cases hi
  | cons x xs ih =>
    obtain ⟨hx, hxs⟩ := List.pairwise_cons.mp h
    rw [List.countP_cons]
    by_cases hle : x ≤ c
    · rw [if_pos (decide_eq_true hle)]
      cases i with
      | zero => exact ⟨fun _ => Nat.succ_pos _, fun _ => hle⟩
      | succ i =>
        rw [List.getElem_cons_succ, ih hxs (Nat.lt_of_succ_lt_succ hi)]
        omega
    · have hnone : xs.countP (· ≤ c) = 0 := by
        rw [List.countP_eq_zero]
        intro y hy
        have hxy := hx y hy
        rw [decide_eq_true_iff]
        omega
      rw [hnone, if_neg (by simpa using hle)]
      refine ⟨fun hi' => absurd ?_ hle, fun h0 => absurd h0 (Nat.not_lt_zero i)⟩
      cases i with
      | zero => exact hi'
      | succ i =>
        have hxi := hx _ (List.getElem_mem (Nat.lt_of_succ_lt_succ hi))
        rw [List.getElem_cons_succ] at hi'
        omega

/-- The boundaries as one list. -/
def boundaryList : List Nat :=
  printBoundariesA.toList ++ printBoundariesB.toList ++ printBoundariesC.toList
    ++ printBoundariesD.toList ++ printBoundariesE.toList ++ printBoundariesF.toList

/-- The boundaries as a list, for reasoning about them. -/
theorem toList_printBoundaries : printBoundaries.toList = boundaryList := by
  unfold printBoundaries boundaryList
  simp only [Array.toList_append]

/-- They rise from one to the next. -/
theorem pairwise_boundaryList : boundaryList.Pairwise (· < ·) := by
  rw [← List.isChain_iff_pairwise]
  decide +kernel

/-- A character is printable if an odd number of boundaries is not above it. -/
theorem isPrintable_eq (c : Char) :
    isPrintable c = decide (boundaryList.countP (· ≤ c.toNat) % 2 = 1) := by
  have hsize : printBoundaries.size = boundaryList.length := by
    rw [← Array.length_toList, toList_printBoundaries]
  have hget {i : Nat} (hi : i < boundaryList.length) :
      printBoundaries.getD i 0 = boundaryList[i] := by
    rw [Array.getD_eq_getD_getElem?, ← Array.getElem?_toList, toList_printBoundaries,
      List.getElem?_eq_getElem hi]
    rfl
  have hcount : boundaryList.countP (· ≤ c.toNat) ≤ boundaryList.length := List.countP_le_length
  unfold isPrintable
  rw [countUpTo_eq (Nat.zero_le _) (hsize.symm ▸ hcount) le_rfl]
  · intro i hi
    rw [hget (by omega)]
    exact (getElem_le_iff_of_pairwise pairwise_boundaryList _ _).mpr hi
  · intro i hi hlt
    rw [hget (by omega), ← not_le, getElem_le_iff_of_pairwise pairwise_boundaryList]
    omega

/-- The codes of the blanks that do not print. -/
def silentBlanks : List Nat :=
  [9, 10, 11, 12, 13, 28, 29, 30, 31, 133, 160, 5760, 8192, 8193, 8194, 8195, 8196, 8197, 8198,
    8199, 8200, 8201, 8202, 8232, 8233, 8239, 8287, 12288]

theorem not_isPrintable_of_silent : ∀ n ∈ 0 :: silentBlanks,
    boundaryList.countP (· ≤ n) % 2 ≠ 1 := by
  decide +kernel

/-- No blank but the space prints. -/
theorem eq_space_of_isPrintable {c : Char} (h : isPrintable c = true) (hblank : isBlank c = true) :
    c = ' ' := by
  rw [isPrintable_eq, decide_eq_true_iff] at h
  have hcode : c.toNat ∉ 0 :: silentBlanks := fun hmem => not_isPrintable_of_silent _ hmem h
  simp [isBlank] at hblank
  simp [silentBlanks] at hcode
  have hspace : c.toNat = ' '.toNat := by
    show c.toNat = 32
    omega
  exact Char.toNat_inj.mp hspace

/-- The character that ends texts elsewhere is not printable. -/
theorem ne_nul_of_isPrintable {c : Char} (h : isPrintable c = true) : c ≠ '\x00' := by
  rintro rfl
  have hcode : '\x00'.toNat = 0 := rfl
  rw [isPrintable_eq, decide_eq_true_iff, hcode] at h
  exact not_isPrintable_of_silent 0 List.mem_cons_self h

end PoissonFactor.Text
