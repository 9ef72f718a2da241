import PoissonFactor.Proofs.Value.Ranking
import PoissonFactor.Ratings.KeyIndex

/-!
# An index of the keys of a list

Identifiers that have a common order can be numbered (`KeyIndex.fromKeys_eq_ok`): the index
holds identifiers of the list only, and each of them has exactly one row.
-/

namespace PoissonFactor

namespace KeyIndex

/-- The identifier of a row is the one at its place. -/
theorem keyOf_val (index : KeyIndex) (i : Fin index.size) :
    index.keyOf (i.val : Int) = .ok index.keys[i] := by
  have hnonneg : ¬ (i.val : Int) < 0 := by omega
  have hget : index.keys[i.val]? = some index.keys[i] := List.getElem?_eq_getElem i.isLt
  unfold keyOf
  rw [if_neg hnonneg]
  dsimp only
  rw [if_neg hnonneg, Int.toNat_natCast, hget]

/-- A key is found in the row that answers to it and to nothing before. -/
theorem indexOf_eq_ok {index : KeyIndex} {key : Value} (hkey : key.asKey = .ok key)
    {i : Fin index.size} (hi : index.keys[i].same key = true)
    (hfirst : ∀ j < i, index.keys[j].same key ≠ true) : index.indexOf key = .ok i := by
  have hfind : index.find? key = some i := List.findFinIdx?_eq_some_iff.mpr ⟨hi, hfirst⟩
  unfold indexOf
  refine bind_eq_ok_iff.mpr ⟨key, hkey, ?_⟩
  rw [hfind]
  rfl

/-- The index numbers the identifiers of a list and no others: each of them has one row. -/
structure Numbers (index : KeyIndex) (vs : List Value) : Prop where
  subset : index.keys ⊆ vs
  row : ∀ v ∈ vs, ∃ i, index.indexOf v = .ok i
    ∧ ∀ j : Fin index.size, index.keys[j].same v = true ↔ j = i

/-- **The index of a list of identifiers** exists and numbers them. -/
theorem fromKeys_eq_ok {vs : List Value} (h : Value.Orderable vs) :
    ∃ index, fromKeys vs = .ok index ∧ index.Numbers vs := by
  obtain ⟨keys, hkeys, hsub, hlt, hcover⟩ := h.sortedKeys_eq_ok
  have hdistinct : keys.Pairwise fun a b => a.same b = false :=
    hlt.imp fun hab => Bool.eq_false_iff.mpr fun hsame => hab.ne (Value.marks_eq_of_same hsame)
  refine ⟨⟨keys, hdistinct⟩, ?_, hsub, ?_⟩
  · unfold fromKeys ofKeys
    refine bind_eq_ok_iff.mpr ⟨keys, hkeys, bind_eq_ok_iff.mpr ⟨keys, ?_, ?_⟩⟩
    · exact mapM_eq_self fun a ha => h.asKey_eq (hsub ha)
    · rw [dif_pos hdistinct]
      rfl
  · intro v hv
    obtain ⟨b, hb, hbv⟩ := hcover v hv
    obtain ⟨i, hi, rfl⟩ := List.getElem_of_mem hb
    have hsame : ∀ j : Fin keys.length, keys[j].same v = true ↔ j = ⟨i, hi⟩ := by
      intro j
      show keys[j.val].same v = true ↔ _
      rw [h.same_iff (hsub (List.getElem_mem j.isLt)) hv, ← hbv]
      constructor
      · intro heq
        -- Marks ascend along the keys, so equal marks are those of one row.
        rcases lt_trichotomy j.val i with hji | hji | hji
        · exact absurd heq (List.pairwise_iff_getElem.mp hlt _ _ j.isLt hi hji).ne
        · exact Fin.ext hji
        · exact absurd heq (List.pairwise_iff_getElem.mp hlt _ _ hi j.isLt hji).ne'
      · rintro rfl
        rfl
    refine ⟨⟨i, hi⟩, indexOf_eq_ok (h.asKey_eq hv) ((hsame ⟨i, hi⟩).mpr rfl) ?_, hsame⟩
    intro j hj hjv
    exact absurd ((hsame j).mp hjv) hj.ne

end KeyIndex

end PoissonFactor
