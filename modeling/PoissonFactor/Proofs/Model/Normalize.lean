import PoissonFactor.Model.Weights
import PoissonFactor.Proofs.Model.Columns

/-!
# Normalising an array is softmax, row by row

Log-weights come as an array of rows, stored one after the other. To normalise it, the
array is cut back into its rows, and every row is run through the pairwise recurrence.
That much is true in any arithmetic:

> `Grid.normalize_ofTable`: a table is normalised row by row, each as it would be
> alone.

Over the reals the recurrence is softmax (`softmaxRow_getElem`), so what comes out is
`Table.softmax`, a formula in which neither the order of a row nor the branches of the
recurrence are left. Main result:

> `Grid.normalize_softmax`: all three ways to normalise give the softmax of every row,
> with the laws of softmax.
-/

namespace PoissonFactor

/-! ## Rows in a stored array -/

section

variable {α : Type} {m k : Nat}

/-- The array of a table. -/
def Grid.ofTable (t : Table α m k) : Grid α where
  shape := [m, k]
  entries := t.entries

/-- The array of a single row, with one level. -/
def Grid.ofRow (row : Vector α k) : Grid α where
  shape := [k]
  entries := row.toList

/-- Rows of one length that were stored one after the other are found again. -/
theorem Grid.pieces_flatMap (hk : 1 ≤ k) (rows : List (Vector α k)) :
    pieces k (rows.flatMap Vector.toList) = rows.map Vector.toList := by
  induction rows with
  | nil =>
    rw [List.flatMap_nil, pieces, dif_neg fun h => h.2 rfl]
    rfl
  | cons row rows ih =>
    have hlen : row.toList.length = k := row.length_toList
    have hne : row.toList ++ rows.flatMap Vector.toList ≠ [] := by
      intro h
      have hrow : row.toList = [] := (List.append_eq_nil_iff.mp h).1
      rw [hrow, List.length_nil] at hlen
      omega
    rw [List.flatMap_cons, pieces, dif_pos ⟨hk, hne⟩, List.take_left' hlen, List.drop_left' hlen,
      ih, List.map_cons]

variable [Scalar α]

theorem softmax_toList (row : Vector α k) : softmax row.toList = (softmaxRow row).toList := by
  have hlen : row.toList.length = k := row.length_toList
  unfold softmax softmaxRow
  rw [hlen]
  by_cases hk : k = 1
  · rw [if_pos hk, if_pos hk, row_toList, row_toList, List.map_map]
    simp only [Row.getElem_ofFn]
    rfl
  · rw [if_neg hk, if_neg hk, Vector.toList_map]

/-! ## Row by row -/

namespace Grid

/-- The rows of a table are normalised one by one, whatever a missing entry would be called. -/
theorem normalizeLevels_ofTable (hk : 1 ≤ k) (missing : Nat → Nat → Failure) (t : Table α m k) :
    normalizeLevels missing (ofTable t) k [] = .ok (ofTable (t.map softmaxRow)) := by
  have hentries : Table.entries (t.map softmaxRow)
      = t.toList.flatMap fun row => softmax row.toList := by
    unfold Table.entries
    simp only [Vector.toList_map, List.flatMap_map, softmax_toList]
  unfold normalizeLevels
  rw [List.getLast?_nil, Option.getD_none]
  dsimp only
  by_cases h1 : k = 1
  · -- The shortcut for one feature fills in what the recurrence gives for a row of one.
    subst h1
    have hone : ∀ row : Vector α 1, softmax row.toList = row.toList.map fun _ => Scalar.one :=
      fun row => if_pos row.length_toList
    rw [if_pos rfl]
    unfold ofTable
    rw [hentries]
    simp only [hone]
    rw [← List.map_flatMap]
    rfl
  · have hwhole : missingEntry? k k = none := by
      unfold missingEntry?
      rw [if_neg (by omega)]
    rw [if_neg h1, hwhole]
    show Except.ok { ofTable t with entries := (pieces k t.entries).flatMap softmax } = _
    unfold ofTable
    rw [hentries]
    unfold Table.entries
    rw [pieces_flatMap hk, List.flatMap_map]

/-- **A table is normalised row by row**, in either of the two ways. -/
theorem normalize_ofTable (hk : 1 ≤ k) (t : Table α m k) :
    (ofTable t).normalize = .ok (ofTable (t.map softmaxRow))
      ∧ (ofTable t).normalizeRows = .ok (ofTable (t.map softmaxRow)) :=
  ⟨normalizeLevels_ofTable hk (fun i n => .axisOutOfBounds i 1 n) t,
    normalizeLevels_ofTable hk (fun i n => .dimensionOutOfBounds i 1 n) t⟩

theorem normalize_ofRow (hk : 1 ≤ k) (row : Vector α k) :
    (ofRow row).normalize = .ok (ofRow (softmaxRow row)) := by
  show (if k = 0 then _ else _) = _
  rw [if_neg (by omega)]
  unfold ofRow
  rw [softmax_toList]

end Grid

end

/-! ## Softmax -/

section

variable {m k : Nat}

/-- The softmax of every row: an exponential over the sum of those of its row. -/
noncomputable def Table.softmax (t : Table ℝ m k) : Table ℝ m k :=
  Table.ofFn fun i j => Real.exp t[i][j] / ∑ x : Fin k, Real.exp t[i][x]

theorem Table.softmax_getElem (t : Table ℝ m k) (i : Fin m) (j : Fin k) :
    t.softmax[i][j] = Real.exp t[i][j] / ∑ x : Fin k, Real.exp t[i][x] :=
  Table.getElem_ofFn _ i j

theorem Table.softmax_pos (t : Table ℝ m k) (i : Fin m) (j : Fin k) : 0 < t.softmax[i][j] := by
  rw [softmax_getElem]
  exact div_pos (Real.exp_pos _) (sum_exp_pos t[i] j)

/-- Softmax keeps the order of a row. -/
theorem Table.softmax_le (t : Table ℝ m k) (i : Fin m) {j j' : Fin k} (h : t[i][j] ≤ t[i][j']) :
    t.softmax[i][j] ≤ t.softmax[i][j'] := by
  rw [softmax_getElem, softmax_getElem]
  exact div_le_div_of_nonneg_right (Real.exp_le_exp.mpr h) (sum_exp_pos t[i] j).le

/-- Softmax does not see a constant that is added to a whole row. -/
theorem Table.softmax_add (t : Table ℝ m k) (c : Fin m → ℝ) :
    (Table.ofFn fun i (j : Fin k) => t[i][j] + c i).softmax = t.softmax := by
  apply Table.ext
  intro i j
  have hne : Real.exp (c i) ≠ 0 := (Real.exp_pos _).ne'
  rw [softmax_getElem, softmax_getElem]
  simp only [Table.getElem_ofFn, Real.exp_add]
  rw [← Finset.sum_mul, mul_div_mul_right _ _ hne]

/-- Softmax goes along with any rearrangement of the rows' entries. -/
theorem Table.softmax_perm (t : Table ℝ m k) (π : Fin m → Equiv.Perm (Fin k)) :
    (Table.ofFn fun i j => t[i][π i j]).softmax = Table.ofFn fun i j => t.softmax[i][π i j] := by
  apply Table.ext
  intro i j
  rw [Table.getElem_ofFn, softmax_getElem, softmax_getElem]
  simp only [Table.getElem_ofFn]
  rw [Equiv.sum_comp (π i) fun x => Real.exp t[i][x]]

variable [SpecialFunctions]

/-- The recurrence, taken along every row, is softmax. -/
theorem Table.map_softmaxRow (t : Table ℝ m k) : t.map softmaxRow = t.softmax := by
  apply Table.ext
  intro i j
  rw [Row.getElem_map, softmaxRow_getElem, softmax_getElem]

theorem Table.softmaxRow_eq (t : Table ℝ m k) (i : Fin m) : softmaxRow t[i] = t.softmax[i] := by
  rw [← map_softmaxRow, Row.getElem_map]

theorem Table.sum_softmax (hk : 1 ≤ k) (t : Table ℝ m k) (i : Fin m) :
    ∑ j : Fin k, t.softmax[i][j] = 1 := by
  rw [← softmaxRow_eq]
  exact sum_softmaxRow hk t[i]

/-- **Normalising is softmax.** For a table with any number of rows, of at least one entry each,
both ways to normalise an array and the one that goes column by column give the softmax of every
row. So every entry that comes out is above zero, a row adds up to one (an entry alone is one),
and a larger entry gives no smaller one; a constant added to a row changes nothing, and a row
with its entries rearranged gives the same rearranged. Every row comes out as it does alone, be
it as a table of one row or as an array of one level. -/
theorem Grid.normalize_softmax (hk : 1 ≤ k) (t : Table ℝ m k) :
    ((ofTable t).normalize = .ok (ofTable t.softmax)
        ∧ (ofTable t).normalizeRows = .ok (ofTable t.softmax)
        ∧ Columns.softmaxRows t = t.softmax)
      ∧ (∀ (i : Fin m) (j : Fin k), 0 < t.softmax[i][j])
      ∧ (∀ i : Fin m, ∑ j : Fin k, t.softmax[i][j] = 1)
      ∧ (k = 1 → ∀ (i : Fin m) (j : Fin k), t.softmax[i][j] = 1)
      ∧ (∀ (i : Fin m) (j j' : Fin k), t[i][j] ≤ t[i][j'] → t.softmax[i][j] ≤ t.softmax[i][j'])
      ∧ (∀ c : Fin m → ℝ,
          (ofTable (Table.ofFn fun i (j : Fin k) => t[i][j] + c i)).normalize
            = (ofTable t).normalize)
      ∧ (∀ π : Fin m → Equiv.Perm (Fin k),
          (ofTable (Table.ofFn fun i j => t[i][π i j])).normalize
            = .ok (ofTable (Table.ofFn fun i j => t.softmax[i][π i j])))
      ∧ ∀ i : Fin m, (ofRow t[i]).normalize = .ok (ofRow t.softmax[i])
          ∧ (ofTable #v[t[i]]).normalize = .ok (ofTable #v[t.softmax[i]]) := by
  have htable : ∀ {n : Nat} (t : Table ℝ n k), (ofTable t).normalize = .ok (ofTable t.softmax) := by
    intro n t
    rw [(normalize_ofTable hk t).1, Table.map_softmaxRow]
  refine ⟨⟨htable t, ?_, ?_⟩, t.softmax_pos, t.sum_softmax hk, ?_, fun i _ _ h => t.softmax_le i h,
    fun c => ?_, fun π => ?_, fun i => ⟨?_, ?_⟩⟩
  · rw [(normalize_ofTable hk t).2, Table.map_softmaxRow]
  · apply Row.ext
    intro i
    rw [Columns.softmaxRows_getElem, Table.softmaxRow_eq]
  · intro h1 i j
    subst h1
    have hsum := t.sum_softmax le_rfl i
    rw [Fin.sum_univ_one] at hsum
    rw [Subsingleton.elim j 0, hsum]
  · rw [htable, htable, Table.softmax_add]
  · rw [htable, Table.softmax_perm]
  · rw [normalize_ofRow hk, Table.softmaxRow_eq]
  · rw [(normalize_ofTable hk _).1, ← Table.softmaxRow_eq]
    simp

end

/-- Weights in the ratio of one to three. -/
theorem Grid.normalize_softmax_quarters :
    letI : SpecialFunctions := .gamma
    let t : Table ℝ 1 2 := #v[#v[0, Real.log 3]]
    1 ≤ 2 ∧ (ofTable t).normalize = .ok { shape := [1, 2], entries := [1 / 4, 3 / 4] }
      ∧ t[(0 : Fin 1)][(0 : Fin 2)] ≤ t[(0 : Fin 1)][(1 : Fin 2)]
      ∧ t.softmax[(0 : Fin 1)][(0 : Fin 2)] ≤ t.softmax[(0 : Fin 1)][(1 : Fin 2)] := by
  let _ : SpecialFunctions := .gamma
  intro t
  have h := normalize_softmax one_le_two t
  have hlog : (0 : ℝ) ≤ Real.log 3 := Real.log_nonneg (by norm_num)
  have hle : t[(0 : Fin 1)][(0 : Fin 2)] ≤ t[(0 : Fin 1)][(1 : Fin 2)] := hlog
  have hsum : ∑ x : Fin 2, Real.exp t[(0 : Fin 1)][x] = 4 := by
    rw [Fin.sum_univ_two]
    show Real.exp 0 + Real.exp (Real.log 3) = 4
    rw [Real.exp_zero, Real.exp_log (by norm_num)]
    norm_num
  have hsoftmax : t.softmax = #v[#v[1 / 4, 3 / 4]] := by
    apply Table.ext
    intro i j
    rw [Table.softmax_getElem, Subsingleton.elim i 0, hsum]
    fin_cases j
    · show Real.exp 0 / 4 = 1 / 4
      rw [Real.exp_zero]
    · show Real.exp (Real.log 3) / 4 = 3 / 4
      rw [Real.exp_log (by norm_num)]
  refine ⟨one_le_two, ?_, hle, h.2.2.2.2.1 0 0 1 hle⟩
  rw [h.1.1, hsoftmax]
  rfl

end PoissonFactor
