import PoissonFactor.Proofs.Model.Entries

/-!
# The ratings of a pair act as one

A rating that is counted is shared out by the user and the item it names, and all it
brings along is a weight. So the ratings of one pair act together as a single weight:

> `gathered_users_eq`, `gathered_items_eq`: what one count adds to a row is a sum over
> the pairs of that row, each pair with `pairWeight` times its share.

> `Regrouped.pairWeight_eq`: reordering ratings, dropping one that does not count,
> raising one to the least weight there is and merging two of a pair all leave every
> `pairWeight` as it was.

Two lists with the same pair weights are therefore the same list to a count
(`Rows.count_eq_of_pairWeight_eq`).
-/

namespace PoissonFactor

variable {users items k : Nat}

/-! ## The weight of a pair -/

/-- What the ratings of a user for an item are worth together. -/
noncomputable def pairWeight (ratings : List (Observation ℝ users items)) (u : Fin users)
    (i : Fin items) : ℝ :=
  ((ratings.filter fun o => 0 < o.value ∧ o.user = u ∧ o.item = i).map fun o => max o.value 1).sum

theorem pairWeight_nil (u : Fin users) (i : Fin items) : pairWeight [] u i = 0 := rfl

theorem pairWeight_cons (o : Observation ℝ users items) (rest : List (Observation ℝ users items))
    (u : Fin users) (i : Fin items) :
    pairWeight (o :: rest) u i
      = (if 0 < o.value ∧ o.user = u ∧ o.item = i then max o.value 1 else 0)
        + pairWeight rest u i := by
  unfold pairWeight
  by_cases h : 0 < o.value ∧ o.user = u ∧ o.item = i
  · rw [List.filter_cons_of_pos (by simpa using h), if_pos h, List.map_cons, List.sum_cons]
  · rw [List.filter_cons_of_neg (by simpa using h), if_neg h, zero_add]

theorem pairWeight_nonneg (ratings : List (Observation ℝ users items)) (u : Fin users)
    (i : Fin items) : 0 ≤ pairWeight ratings u i := by
  apply List.sum_nonneg
  intro x hx
  obtain ⟨o, -, rfl⟩ := List.mem_map.mp hx
  exact le_trans zero_le_one (le_max_right _ _)

/-- A sum over the ratings above zero of some pairs, taken pair by pair. -/
theorem sum_filter_eq_sum_pairWeight (f : Fin users → Fin items → ℝ)
    (P : Fin users → Fin items → Prop) [∀ u i, Decidable (P u i)]
    (ratings : List (Observation ℝ users items)) :
    ((ratings.filter fun o => 0 < o.value ∧ P o.user o.item).map fun o =>
        max o.value 1 * f o.user o.item).sum
      = ∑ u : Fin users, ∑ i : Fin items, if P u i then pairWeight ratings u i * f u i else 0 := by
  induction ratings with
  | nil => simp [pairWeight_nil]
  | cons o rest ih =>
    -- The rating at the front adds to its own pair and to no other.
    have hpair : ∀ (u : Fin users) (i : Fin items),
        (if P u i then pairWeight (o :: rest) u i * f u i else 0)
          = (if o.user = u then if o.item = i then
              if 0 < o.value ∧ P u i then max o.value 1 * f u i else 0 else 0 else 0)
            + if P u i then pairWeight rest u i * f u i else 0 := by
      intro u i
      rw [pairWeight_cons]
      by_cases hp : P u i <;> by_cases hv : 0 < o.value <;> by_cases hu : o.user = u <;>
        by_cases hi : o.item = i <;> simp [hp, hv, hu, hi, add_mul]
    simp only [hpair, Finset.sum_add_distrib, Finset.sum_ite_irrel, Finset.sum_const_zero,
      Finset.sum_ite_eq, Finset.mem_univ, if_true]
    rw [← ih]
    by_cases h : 0 < o.value ∧ P o.user o.item
    · rw [List.filter_cons_of_pos (by simpa using h), if_pos h, List.map_cons, List.sum_cons]
    · rw [List.filter_cons_of_neg (by simpa using h), if_neg h, zero_add]

/-! ## Lists that come to the same -/

/-- Changes to a list of ratings, in any number and order, that no pair's weight notices. -/
inductive Regrouped :
    List (Observation ℝ users items) → List (Observation ℝ users items) → Prop where
  | reorder {l l' : List (Observation ℝ users items)} : l.Perm l' → Regrouped l l'
  /-- A rating that is not above zero may go. -/
  | drop {o : Observation ℝ users items} {l : List (Observation ℝ users items)} :
    o.value ≤ 0 → Regrouped (o :: l) l
  /-- A rating between zero and one counts as one. -/
  | raise {o : Observation ℝ users items} {l : List (Observation ℝ users items)} :
    0 < o.value → o.value ≤ 1 → Regrouped (o :: l) ({ o with value := 1 } :: l)
  /-- Two ratings of a pair, both at least one, count as their sum. -/
  | merge {o o' : Observation ℝ users items} {l : List (Observation ℝ users items)} :
    o.user = o'.user → o.item = o'.item → 1 ≤ o.value → 1 ≤ o'.value →
    Regrouped (o :: o' :: l) ({ o with value := o.value + o'.value } :: l)
  | symm {l l' : List (Observation ℝ users items)} : Regrouped l l' → Regrouped l' l
  | trans {l l' l'' : List (Observation ℝ users items)} :
    Regrouped l l' → Regrouped l' l'' → Regrouped l l''

/-- **Regrouping keeps every weight.** -/
theorem Regrouped.pairWeight_eq {l l' : List (Observation ℝ users items)} (h : Regrouped l l')
    (u : Fin users) (i : Fin items) : pairWeight l u i = pairWeight l' u i := by
  induction h with
  | reorder hp => exact ((hp.filter _).map _).sum_eq
  | drop hv => rw [pairWeight_cons, if_neg fun h => absurd h.1 (not_lt.mpr hv), zero_add]
  | @raise o l hpos hle =>
    rw [pairWeight_cons, pairWeight_cons]
    simp only [hpos, zero_lt_one, max_eq_right hle, max_self]
  | @merge o o' l hu hi hv hv' =>
    have hpos : 0 < o.value := lt_of_lt_of_le zero_lt_one hv
    have hpos' : 0 < o'.value := lt_of_lt_of_le zero_lt_one hv'
    have hle : 1 ≤ o.value + o'.value := le_add_of_le_of_nonneg hv hpos'.le
    rw [pairWeight_cons, pairWeight_cons, pairWeight_cons]
    simp only [← hu, ← hi, hpos, hpos', add_pos hpos hpos', max_eq_left hv, max_eq_left hv',
      max_eq_left hle, true_and]
    by_cases h : o.user = u ∧ o.item = i
    · rw [if_pos h, if_pos h, if_pos h, add_assoc]
    · rw [if_neg h, if_neg h, if_neg h, zero_add]
  | symm _ ih => exact ih.symm
  | trans _ _ ih ih' => exact ih.trans ih'

variable [SpecialFunctions]

/-! ## What a count sees of the ratings -/

/-- What a count adds to a user's row, pair by pair. -/
theorem gathered_users_eq (p : Problem ℝ users items) (s : State ℝ users items k) (u : Fin users)
    (j : Fin k) :
    gathered p s Observation.user u j
      = ∑ i : Fin items, pairWeight p.train u i * responsibility s u i j := by
  have h := sum_filter_eq_sum_pairWeight (fun u i => responsibility s u i j)
    (fun u' _ => u' = u) p.train
  unfold gathered ratingsOf
  rw [h, Finset.sum_comm]
  simp only [Finset.sum_ite_eq', Finset.mem_univ, if_true]

/-- What a count adds to an item's row, pair by pair. -/
theorem gathered_items_eq (p : Problem ℝ users items) (s : State ℝ users items k) (i : Fin items)
    (j : Fin k) :
    gathered p s Observation.item i j
      = ∑ u : Fin users, pairWeight p.train u i * responsibility s u i j := by
  have h := sum_filter_eq_sum_pairWeight (fun u i => responsibility s u i j)
    (fun _ i' => i' = i) p.train
  unfold gathered ratingsOf
  rw [h]
  simp only [Finset.sum_ite_eq', Finset.mem_univ, if_true]

/-- Counting lists with the same pair weights is the same. -/
theorem Rows.count_eq_of_pairWeight_eq {p p' : Problem ℝ users items}
    (h : ∀ u i, pairWeight p.train u i = pairWeight p'.train u i) (s : State ℝ users items k) :
    count p s = count p' s := by
  have husers : (count p s).users.counted = (count p' s).users.counted :=
    Table.ext fun u j => by
      rw [count_users_counted, count_users_counted, gathered_users_eq, gathered_users_eq]
      simp only [h]
  have hitems : (count p s).items.counted = (count p' s).items.counted :=
    Table.ext fun i j => by
      rw [count_items_counted, count_items_counted, gathered_items_eq, gathered_items_eq]
      simp only [h]
  show State.mk { s.users with counted := (count p s).users.counted }
    { s.items with counted := (count p s).items.counted } = _
  rw [husers, hitems]
  rfl

end PoissonFactor
