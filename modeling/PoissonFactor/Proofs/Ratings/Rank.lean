import Mathlib.Data.List.Induction
import PoissonFactor.Proofs.Ratings.KeyIndex

/-!
# The row of an identifier is its rank

`Value.members` collects the distinct identifiers of a list as they appear, with no
order among them, and the rank of an identifier is how many of them come before it. An
index that sorts and drops repetitions numbers by just that:

> `KeyIndex.fromKeys_size` and `KeyIndex.val_eq_rank`: there are as many rows as
> distinct identifiers, and the row of an identifier is its rank among them.

An identifier that is none of them has no row (`KeyIndex.indexOf_eq_error`).
-/

namespace PoissonFactor

namespace Value

/-- The distinct keys of a list in the order of their first appearance. -/
def members (vs : List Value) : List Value :=
  vs.foldl (fun ms v => insertMember v ms) []

/-- How many distinct keys of a list come before a key. -/
def rank (vs : List Value) (v : Value) : Nat :=
  (members vs).countP fun w => w.before v

/-- Equal keys of different types are one member. -/
example : (members [.int 2, .bool true, .int 1, .float 2]).length = 2
    ∧ rank [.int 2, .bool true, .int 1, .float 2] (.float 2) = 1 := by
  decide +kernel

/-! ## Collecting -/

theorem insertMember_subset (v : Value) (ms : List Value) : insertMember v ms ⊆ v :: ms := by
  induction ms with
  | nil => exact List.Subset.refl _
  | cons w rest ih =>
    unfold insertMember
    by_cases hsame : same w v = true
    · rw [if_pos hsame]
      exact List.subset_cons_self v (w :: rest)
    · rw [if_neg hsame]
      intro x hx
      rcases List.mem_cons.mp hx with rfl | hx
      · exact List.mem_cons_of_mem v List.mem_cons_self
      · rcases List.mem_cons.mp (ih hx) with rfl | hx
        · exact List.mem_cons_self
        · exact List.mem_cons_of_mem v (List.mem_cons_of_mem w hx)

/-- A key that is there already changes nothing, and a new one comes last. -/
theorem marks_insertMember {v : Value} {ms : List Value} (h : Orderable (v :: ms)) :
    (insertMember v ms).map marks
      = if marks v ∈ ms.map marks then ms.map marks else ms.map marks ++ [marks v] := by
  induction ms with
  | nil => rfl
  | cons w rest ih =>
    have hrest : Orderable (v :: rest) :=
      h.of_subset (List.cons_subset_cons v (List.subset_cons_self w rest))
    have hsame := h.same_iff (List.mem_cons_of_mem v List.mem_cons_self) List.mem_cons_self
    unfold insertMember
    rw [List.map_cons]
    by_cases heq : marks w = marks v
    · rw [if_pos (hsame.mpr heq), if_pos (heq ▸ List.mem_cons_self)]
      rfl
    · rw [if_neg (mt hsame.mp heq), List.map_cons, ih hrest]
      by_cases hmem : marks v ∈ rest.map marks
      · rw [if_pos hmem, if_pos (List.mem_cons_of_mem _ hmem)]
      · have hnot : marks v ∉ marks w :: rest.map marks := fun hv =>
          (List.mem_cons.mp hv).elim (fun hv => heq hv.symm) hmem
        rw [if_neg hmem, if_neg hnot]
        rfl

theorem members_concat (vs : List Value) (v : Value) :
    members (vs ++ [v]) = insertMember v (members vs) := by
  unfold members
  rw [List.foldl_append]
  rfl

theorem members_subset (vs : List Value) : members vs ⊆ vs := by
  induction vs using List.reverseRecOn with
  | nil => exact List.Subset.refl _
  | append_singleton vs v ih =>
    rw [members_concat]
    intro x hx
    rcases List.mem_cons.mp (insertMember_subset v _ hx) with rfl | hx
    · exact List.mem_append_right vs List.mem_cons_self
    · exact List.mem_append_left [v] (ih hx)

/-- Collecting keeps every key once. -/
theorem marks_members {vs : List Value} (h : Orderable vs) :
    ((members vs).map marks).Nodup ∧ ∀ m, m ∈ (members vs).map marks ↔ m ∈ vs.map marks := by
  induction vs using List.reverseRecOn with
  | nil => exact ⟨List.nodup_nil, fun m => Iff.rfl⟩
  | append_singleton vs v ih =>
    obtain ⟨hnodup, hmem⟩ := ih (h.of_subset (List.subset_append_left vs [v]))
    have hinsert : Orderable (v :: members vs) := by
      apply h.of_subset
      intro x hx
      rcases List.mem_cons.mp hx with rfl | hx
      · exact List.mem_append_right vs List.mem_cons_self
      · exact List.mem_append_left [v] (members_subset vs hx)
    rw [members_concat, marks_insertMember hinsert, List.map_append]
    by_cases hv : marks v ∈ (members vs).map marks
    · rw [if_pos hv]
      refine ⟨hnodup, fun m => ?_⟩
      rw [hmem, List.mem_append]
      constructor
      · exact Or.inl
      · rintro (hm | hm)
        · exact hm
        · rw [List.mem_singleton.mp hm]
          exact (hmem _).mp hv
    · rw [if_neg hv]
      refine ⟨List.nodup_append.mpr ⟨hnodup, List.pairwise_singleton _ _, ?_⟩, fun m => ?_⟩
      · intro a ha b hb hab
        rw [hab, List.mem_singleton.mp hb] at ha
        exact hv ha
      · rw [List.mem_append, List.mem_append, hmem]
        rfl

/-! ## Ranks in ascending order -/

/-- In an ascending list, as many entries are below an entry as stand before it. -/
theorem countP_lt_getElem {ms : List (List Mark)} (h : ms.Pairwise (· < ·)) {i : Nat}
    (hi : i < ms.length) : (ms.countP fun m => decide (m < ms[i])) = i := by
  induction ms generalizing i with
  | nil => exact absurd hi (Nat.not_lt_zero i)
  | cons m ms ih =>
    obtain ⟨hm, hms⟩ := List.pairwise_cons.mp h
    cases i with
    | zero =>
      rw [List.countP_eq_zero]
      intro x hx
      rw [decide_eq_true_iff, not_lt]
      rcases List.mem_cons.mp hx with rfl | hx
      · exact le_refl _
      · exact (hm x hx).le
    | succ i =>
      have hlen : i < ms.length := Nat.lt_of_succ_lt_succ hi
      have hbelow : m < ms[i] := hm _ (List.getElem_mem hlen)
      rw [List.countP_cons]
      simp only [List.getElem_cons_succ]
      rw [ih hms hlen, if_pos (decide_eq_true hbelow)]

/-- The marks of the sorted keys are those of the list, each once and ascending. -/
theorem Orderable.marks_sortedKeys {vs keys : List Value} (h : Orderable vs)
    (hkeys : sortedKeys vs = .ok keys) :
    (keys.map marks).Pairwise (· < ·) ∧ ∀ m, m ∈ keys.map marks ↔ m ∈ vs.map marks := by
  obtain ⟨keys', hkeys', hsub, hlt, hcover⟩ := h.sortedKeys_eq_ok
  cases hkeys.symm.trans hkeys'
  refine ⟨List.pairwise_map.mpr hlt, fun m => ⟨fun hm => ?_, fun hm => ?_⟩⟩
  · obtain ⟨b, hb, rfl⟩ := List.mem_map.mp hm
    exact List.mem_map_of_mem (hsub hb)
  · obtain ⟨v, hv, rfl⟩ := List.mem_map.mp hm
    obtain ⟨b, hb, hbv⟩ := hcover v hv
    exact List.mem_map.mpr ⟨b, hb, hbv⟩

/-- The distinct keys of a list in ascending order are as many as it has members, and each stands
at its rank. -/
theorem Orderable.rank_eq {vs keys : List Value} (h : Orderable vs)
    (hkeys : sortedKeys vs = .ok keys) :
    keys.length = (members vs).length
      ∧ ∀ v ∈ vs, ∀ i, ∀ hi : i < keys.length, marks keys[i] = marks v → rank vs v = i := by
  obtain ⟨hascending, hmem'⟩ := h.marks_sortedKeys hkeys
  obtain ⟨hnodup, hmem⟩ := marks_members h
  have hperm : ((members vs).map marks).Perm (keys.map marks) := by
    refine (List.perm_ext_iff_of_nodup hnodup (hascending.imp ne_of_lt)).mpr fun m => ?_
    rw [hmem, hmem']
  refine ⟨?_, fun v hv i hi hiv => ?_⟩
  · rw [← List.length_map marks, ← hperm.length_eq, List.length_map]
  · have hbefore : rank vs v
        = ((members vs).map marks).countP fun m => decide (m < marks v) := by
      unfold rank
      rw [List.countP_map]
      refine List.countP_congr fun w hw => ?_
      exact (h.before_iff (members_subset vs hw) hv).trans decide_eq_true_iff.symm
    have hlength : i < (keys.map marks).length := by
      rw [List.length_map]
      exact hi
    have hentry : (keys.map marks)[i] = marks v := by
      rw [List.getElem_map]
      exact hiv
    rw [hbefore, hperm.countP_eq, ← hentry]
    exact countP_lt_getElem hascending hlength

end Value

namespace KeyIndex

/-- The rows of an index are the sorted keys it was made from. -/
theorem sortedKeys_of_fromKeys {vs : List Value} (h : Value.Orderable vs) {index : KeyIndex}
    (hindex : fromKeys vs = .ok index) : Value.sortedKeys vs = .ok index.keys := by
  obtain ⟨keys, hkeys, hsub, -, -⟩ := h.sortedKeys_eq_ok
  unfold fromKeys ofKeys at hindex
  rw [hkeys] at hindex
  obtain ⟨_, hsorted, hindex⟩ := bind_eq_ok_iff.mp hindex
  cases hsorted
  obtain ⟨_, hmap, hindex⟩ := bind_eq_ok_iff.mp hindex
  cases hmap.symm.trans (mapM_eq_self fun a ha => h.asKey_eq (hsub ha))
  split at hindex
  · cases hindex
    exact hkeys
  · cases hindex

theorem fromKeys_size {vs : List Value} (h : Value.Orderable vs) {index : KeyIndex}
    (hindex : fromKeys vs = .ok index) : index.size = (Value.members vs).length :=
  (h.rank_eq (sortedKeys_of_fromKeys h hindex)).1

/-- The row of an identifier is its rank. -/
theorem val_eq_rank {vs : List Value} (h : Value.Orderable vs) {index : KeyIndex}
    (hindex : fromKeys vs = .ok index) {v : Value} (hv : v ∈ vs) {i : Fin index.size}
    (hi : index.keys[i].same v = true) : i.val = Value.rank vs v :=
  ((h.rank_eq (sortedKeys_of_fromKeys h hindex)).2 v hv i.val i.isLt
    (Value.marks_eq_of_same hi)).symm

/-- An identifier that no row answers to is unknown. -/
theorem indexOf_eq_error {index : KeyIndex} {key : Value} (hkey : key.asKey = .ok key)
    (hnone : ∀ k ∈ index.keys, k.same key = false) :
    index.indexOf key = .error (.unknownKey key.shown) := by
  have hfind : index.find? key = none := List.findFinIdx?_eq_none_iff.mpr fun k hk => by
    rw [hnone k hk]
    exact Bool.false_ne_true
  unfold indexOf
  rw [hkey]
  dsimp only [bind, Except.bind]
  rw [hfind]

end KeyIndex

end PoissonFactor
