import PoissonFactor.Proofs.Outcome
import PoissonFactor.Proofs.Value.Order

/-!
# The distinct keys of a list

Keys that have a common order can be sorted, and in a sorted list repetitions stand side by
side:

> `Value.Orderable.sortedKeys_eq_ok`: the distinct keys in ascending order exist, all of them
> come from the list, and every key of the list is among them.
-/

namespace PoissonFactor

namespace Value

/-- Keys that have a common order: they can be keys at all, and of two of them that are not the
same key one comes before the other. -/
def Orderable (vs : List Value) : Prop :=
  (∀ a ∈ vs, a.mutablePart? = none)
    ∧ ∀ a ∈ vs, ∀ b ∈ vs, a.same b = true ∨ a.before b = true ∨ b.before a = true

instance (vs : List Value) : Decidable (Orderable vs) :=
  inferInstanceAs (Decidable (_ ∧ _))

/-- Numbers of different types have an order, and so have tuples whose members that decide are of
one kind. -/
example : Orderable [.int 2, .bool true, .float 1.5, .int 2]
    ∧ Orderable [.tuple [.int 1, .str "a"], .tuple [.int 1], .tuple [.int 0, .null]]
    ∧ ¬ Orderable [.int 1, .str "1"] := by
  decide +kernel

namespace Orderable

variable {vs : List Value}

theorem of_subset {ws : List Value} (h : Orderable vs) (hsub : ws ⊆ vs) : Orderable ws :=
  ⟨fun a ha => h.1 a (hsub ha), fun a ha b hb => h.2 a (hsub ha) b (hsub hb)⟩

theorem asKey_eq (h : Orderable vs) {a : Value} (ha : a ∈ vs) : a.asKey = .ok a := by
  unfold asKey
  rw [h.1 a ha]

theorem before_iff (h : Orderable vs) {a b : Value} (ha : a ∈ vs) (hb : b ∈ vs) :
    a.before b = true ↔ marks a < marks b := by
  constructor
  · exact marks_lt_of_before
  · intro hlt
    rcases h.2 a ha b hb with hsame | hab | hba
    · exact absurd (marks_eq_of_same hsame) hlt.ne
    · exact hab
    · exact absurd (marks_lt_of_before hba) hlt.asymm

theorem same_iff (h : Orderable vs) {a b : Value} (ha : a ∈ vs) (hb : b ∈ vs) :
    a.same b = true ↔ marks a = marks b := by
  constructor
  · exact marks_eq_of_same
  · intro heq
    rcases h.2 a ha b hb with hsame | hab | hba
    · exact hsame
    · exact absurd heq (marks_lt_of_before hab).ne
    · exact absurd heq (marks_lt_of_before hba).ne'

end Orderable

/-! ## Sorting and dropping repetitions -/

/-- Dropping repetitions only drops. -/
theorem dropRepeats_sublist (vs : List Value) : (dropRepeats vs).Sublist vs := by
  induction vs with
  | nil => exact List.Sublist.refl _
  | cons v rest ih =>
    unfold dropRepeats
    cases hrest : dropRepeats rest with
    | nil => exact List.Sublist.cons_cons v (List.nil_sublist rest)
    | cons w ws =>
      rw [hrest] at ih
      dsimp only
      by_cases hsame : same v w = true
      · rw [if_pos hsame]
        exact List.Sublist.cons_cons v ((List.sublist_cons_self w ws).trans ih)
      · rw [if_neg hsame]
        exact List.Sublist.cons_cons v ih

/-- Keys each of which has an order with all behind it pass the test. -/
theorem neighboursOrdered_of_pairwise {vs : List Value}
    (h : vs.Pairwise fun a b => ordered a b = true) : neighboursOrdered vs = true := by
  induction vs with
  | nil => rfl
  | cons a rest ih =>
    obtain ⟨ha, hrest⟩ := List.pairwise_cons.mp h
    cases rest with
    | nil => rfl
    | cons b rest =>
      unfold neighboursOrdered
      rw [ha b List.mem_cons_self, ih hrest]
      rfl

namespace Orderable

variable {vs : List Value}

/-- A sorted list is in ascending order. -/
theorem pairwise_mergeSort (h : Orderable vs) :
    (vs.mergeSort notAfter).Pairwise fun a b => marks a ≤ marks b := by
  have hmap : (vs.mergeSort notAfter).map marks
      = (vs.map marks).mergeSort fun x y => decide (x ≤ y) := by
    apply List.map_mergeSort
    intro a ha b hb
    unfold notAfter
    rw [Bool.eq_iff_iff, Bool.not_eq_true', Bool.eq_false_iff, ne_eq, h.before_iff hb ha,
      decide_eq_true_iff, not_lt]
  have hsorted : ((vs.map marks).mergeSort fun x y => decide (x ≤ y)).Pairwise
      fun x y => decide (x ≤ y) = true := by
    apply List.pairwise_mergeSort
    · intro x y z hxy hyz
      rw [decide_eq_true_iff] at *
      exact le_trans hxy hyz
    · intro x y
      rw [Bool.or_eq_true, decide_eq_true_iff, decide_eq_true_iff]
      exact le_total x y
  rw [← hmap, List.pairwise_map] at hsorted
  exact hsorted.imp of_decide_eq_true

/-- In an ascending list, what is left without repetitions ascends strictly. -/
theorem pairwise_dropRepeats (h : Orderable vs)
    (hsorted : vs.Pairwise fun a b => marks a ≤ marks b) :
    (dropRepeats vs).Pairwise fun a b => marks a < marks b := by
  induction vs with
  | nil => exact List.Pairwise.nil
  | cons v rest ih =>
    obtain ⟨hv, hrest⟩ := List.pairwise_cons.mp hsorted
    have hkept := ih (h.of_subset (List.subset_cons_self v rest)) hrest
    have hsub := (dropRepeats_sublist rest).subset
    unfold dropRepeats
    cases hdrop : dropRepeats rest with
    | nil => exact List.pairwise_singleton _ v
    | cons w ws =>
      rw [hdrop] at hkept hsub
      obtain ⟨hw, hws⟩ := List.pairwise_cons.mp hkept
      have hmem : w ∈ rest := hsub List.mem_cons_self
      have hsame := h.same_iff List.mem_cons_self (List.mem_cons_of_mem v hmem)
      dsimp only
      by_cases heq : marks v = marks w
      · rw [if_pos (hsame.mpr heq)]
        exact List.pairwise_cons.mpr ⟨fun x hx => heq ▸ hw x hx, hws⟩
      · rw [if_neg (mt hsame.mp heq)]
        have hlt : marks v < marks w := lt_of_le_of_ne (hv w hmem) heq
        refine List.pairwise_cons.mpr ⟨fun x hx => ?_, hkept⟩
        rcases List.mem_cons.mp hx with rfl | hx
        · exact hlt
        · exact hlt.trans (hw x hx)

end Orderable

/-- Dropping repetitions loses no key. -/
theorem exists_mem_dropRepeats {vs : List Value} {a : Value} (ha : a ∈ vs) :
    ∃ b ∈ dropRepeats vs, marks b = marks a := by
  induction vs with
  | nil => exact absurd ha List.not_mem_nil
  | cons v rest ih =>
    unfold dropRepeats
    cases hdrop : dropRepeats rest with
    | nil =>
      rw [hdrop] at ih
      rcases List.mem_cons.mp ha with rfl | ha
      · exact ⟨a, List.mem_singleton_self a, rfl⟩
      · obtain ⟨b, hb, -⟩ := ih ha
        exact absurd hb List.not_mem_nil
    | cons w ws =>
      rw [hdrop] at ih
      dsimp only
      by_cases hsame : same v w = true
      · rw [if_pos hsame]
        rcases List.mem_cons.mp ha with rfl | ha
        · exact ⟨a, List.mem_cons_self, rfl⟩
        · obtain ⟨b, hb, hmarks⟩ := ih ha
          rcases List.mem_cons.mp hb with rfl | hb
          · exact ⟨v, List.mem_cons_self, (marks_eq_of_same hsame).trans hmarks⟩
          · exact ⟨b, List.mem_cons_of_mem v hb, hmarks⟩
      · rw [if_neg hsame]
        rcases List.mem_cons.mp ha with rfl | ha
        · exact ⟨a, List.mem_cons_self, rfl⟩
        · obtain ⟨b, hb, hmarks⟩ := ih ha
          exact ⟨b, List.mem_cons_of_mem v hb, hmarks⟩

/-- **The distinct keys of a list.** They exist, ascend strictly, come from the list and leave none
of it out. -/
theorem Orderable.sortedKeys_eq_ok {vs : List Value} (h : Orderable vs) :
    ∃ keys, sortedKeys vs = .ok keys ∧ keys ⊆ vs
      ∧ keys.Pairwise (fun a b => marks a < marks b) ∧ ∀ a ∈ vs, ∃ b ∈ keys, marks b = marks a := by
  have hsub : vs.mergeSort notAfter ⊆ vs := fun a ha => List.mem_mergeSort.mp ha
  have hkept : dropRepeats (vs.mergeSort notAfter) ⊆ vs := fun a ha =>
    hsub ((dropRepeats_sublist _).subset ha)
  have hlt := (h.of_subset hsub).pairwise_dropRepeats h.pairwise_mergeSort
  refine ⟨dropRepeats (vs.mergeSort notAfter), ?_, hkept, hlt, ?_⟩
  · have hordered := neighboursOrdered_of_pairwise <| hlt.imp_of_mem fun ha hb hab =>
      ordered_of_before ((h.before_iff (hkept ha) (hkept hb)).mpr hab)
    unfold sortedKeys
    refine bind_eq_ok_iff.mpr ⟨vs, mapM_eq_self fun a => h.asKey_eq, ?_⟩
    exact if_pos hordered
  · intro a ha
    exact exists_mem_dropRepeats (List.mem_mergeSort.mpr ha)

end Value

end PoissonFactor
