import PoissonFactor.Proofs.Model.Entries
import PoissonFactor.Proofs.Model.Phases

/-!
# Where the ratings go

A rating above zero is worth `max v 1`, and counting shares out exactly that among
the features of its user and again among those of its item. So the shapes of a row,
added up, tell how often its ratings were counted:

> `Account.sum_counted`: the shapes being counted hold the prior and what was counted
> since the last renewal.

> `Account.sum_shape`: the shapes in use hold the prior and what was counted between
> the last renewal and the one before it.

Users and items obey the same laws here, so an `Account` is either of them with the
laws it brings along. Behind the two results stand two facts about numbers that
phases change: one phase adds to it, one empties it and all others keep it
(`Engine.emptied_and_filled`), or one takes it over (`Engine.taken_over`).
-/

namespace PoissonFactor

/-! ## Counting the counts -/

/-- How often ratings were counted since a phase was last taken, or ever if it never was. -/
def countsSince (x : Phase) (phases : List Phase) : Nat :=
  (phases.reverse.takeWhile (· ≠ x)).count .count

theorem countsSince_concat (x y : Phase) (phases : List Phase) :
    countsSince x (phases ++ [y]) =
      if y = x then 0 else countsSince x phases + if y = .count then 1 else 0 := by
  unfold countsSince
  rw [List.reverse_append, List.reverse_singleton, List.singleton_append]
  by_cases h : y = x
  · rw [if_pos h, List.takeWhile_cons_of_neg (by simp [h])]
    rfl
  · rw [if_neg h, List.takeWhile_cons_of_pos (by simp [h]), List.count_cons]
    simp

/-- What came before the phase was last taken does not matter. -/
theorem countsSince_append_of_mem {x : Phase} (before : List Phase) {phases : List Phase}
    (h : x ∈ phases) : countsSince x (before ++ phases) = countsSince x phases := by
  induction phases using List.reverseRecOn with
  | nil => exact absurd h List.not_mem_nil
  | append_singleton phases y ih =>
    rw [← List.append_assoc, countsSince_concat, countsSince_concat]
    by_cases hy : y = x
    · rw [if_pos hy, if_pos hy]
    · have hx : x ∈ phases := by
        rcases List.mem_append.mp h with h | h
        · exact h
        · exact absurd (List.mem_singleton.mp h).symm hy
      rw [if_neg hy, if_neg hy, ih hx]

example : countsSince .renewUsers [.count, .renewUsers, .count, .renewItems, .count] = 2 := by
  decide

namespace Engine

variable {users items k : Nat} (e : Engine ℝ users items k)

/-- A number that counting adds to, one phase empties and all others keep. -/
theorem emptied_and_filled (mass : State ℝ users items k → ℝ) {base worth : ℝ} {empties : Phase}
    (hempty : ∀ s, mass (e.perform empties s) = base)
    (hfill : ∀ x ≠ empties, ∀ s,
      mass (e.perform x s) = mass s + if x = .count then worth else 0)
    (phases : List Phase) {s : State ℝ users items k} (hs : mass s = base) :
    mass (e.performAll phases s) = base + countsSince empties phases * worth := by
  induction phases using List.reverseRecOn with
  | nil =>
    show mass s = base + ((0 : Nat) : ℝ) * worth
    rw [hs, Nat.cast_zero, zero_mul, add_zero]
  | append_singleton phases x ih =>
    rw [performAll_concat, countsSince_concat]
    by_cases hx : x = empties
    · rw [if_pos hx, hx, hempty, Nat.cast_zero, zero_mul, add_zero]
    · rw [if_neg hx, hfill x hx, ih]
      by_cases hc : x = .count
      · rw [if_pos hc, if_pos hc]
        push_cast
        ring
      · rw [if_neg hc, if_neg hc, add_zero, add_zero]

/-- A number that one phase takes over and all others keep is what it was when taken over. -/
theorem taken_over (taken mass : State ℝ users items k → ℝ) {takes : Phase}
    (htake : ∀ s, taken (e.perform takes s) = mass s)
    (hkeep : ∀ x ≠ takes, ∀ s, taken (e.perform x s) = taken s)
    (before : List Phase) {after : List Phase} (hafter : takes ∉ after)
    (s : State ℝ users items k) :
    taken (e.performAll (before ++ takes :: after) s) = mass (e.performAll before s) := by
  rw [performAll_append]
  show taken (e.performAll after (e.perform takes (e.performAll before s))) = _
  rw [← htake]
  refine e.performAll_keeps (fun r => taken r = taken (e.perform takes (e.performAll before s)))
    ?_ rfl
  intro x hx r hr
  have hne : x ≠ takes := fun h => hafter (h ▸ hx)
  rw [hkeep x hne, hr]

end Engine

variable {users items n k : Nat}

/-! ## What a row is worth -/

/-- What the ratings of a row are worth. -/
noncomputable def massOf (p : Problem ℝ users items) (rowOf : Observation ℝ users items → Fin n)
    (i : Fin n) : ℝ :=
  ((ratingsOf rowOf i p.train).map fun o => max o.value 1).sum

/-- Every rating above zero belongs to exactly one row. -/
theorem sum_massOf (p : Problem ℝ users items) (rowOf : Observation ℝ users items → Fin n) :
    ∑ i : Fin n, massOf p rowOf i
      = ((p.train.filter fun o => 0 < o.value).map fun o => max o.value 1).sum := by
  unfold massOf ratingsOf
  induction p.train with
  | nil => simp
  | cons o rest ih =>
    by_cases hv : 0 < o.value
    · have hrow : ∀ i : Fin n,
          (((o :: rest).filter fun o => 0 < o.value ∧ rowOf o = i).map fun o => max o.value 1).sum
            = (if rowOf o = i then max o.value 1 else 0)
              + ((rest.filter fun o => 0 < o.value ∧ rowOf o = i).map
                  fun o => max o.value 1).sum := by
        intro i
        by_cases hi : rowOf o = i
        · rw [List.filter_cons_of_pos (by simp [hv, hi]), List.map_cons, List.sum_cons, if_pos hi]
        · rw [List.filter_cons_of_neg (by simp [hi]), if_neg hi, zero_add]
      rw [Finset.sum_congr rfl fun i _ => hrow i, Finset.sum_add_distrib, ih,
        Finset.sum_ite_eq Finset.univ (rowOf o), if_pos (Finset.mem_univ _),
        List.filter_cons_of_pos (by simp [hv]), List.map_cons, List.sum_cons]
    · have hrow : ∀ i : Fin n,
          ((o :: rest).filter fun o => 0 < o.value ∧ rowOf o = i)
            = rest.filter fun o => 0 < o.value ∧ rowOf o = i :=
        fun i => List.filter_cons_of_neg (by simp [hv])
      simp only [hrow]
      rw [ih, List.filter_cons_of_neg (by simp [hv])]

variable [SpecialFunctions]

/-- One count shares out what a row's ratings are worth, no more and no less. -/
theorem sum_gathered (hk : 1 ≤ k) (p : Problem ℝ users items) (s : State ℝ users items k)
    (rowOf : Observation ℝ users items → Fin n) (i : Fin n) :
    ∑ j : Fin k, gathered p s rowOf i j = massOf p rowOf i := by
  unfold gathered massOf
  induction ratingsOf rowOf i p.train with
  | nil => simp
  | cons o rest ih =>
    simp only [List.map_cons, List.sum_cons]
    rw [Finset.sum_add_distrib, ih, ← Finset.mul_sum, sum_responsibility hk, mul_one]

/-! ## The account of a side -/

/-- The account that a side keeps of its ratings: where it stands in a state, which ratings it is
about, and what the phases do to its shapes. -/
structure Account (p : Problem ℝ users items) (n k : Nat) where
  factor : State ℝ users items k → Factor ℝ n k
  prior : SidePrior ℝ
  rowOf : Observation ℝ users items → Fin n
  renewal : Phase
  start_counted : ∀ (draw : Nat → ℝ) (i : Fin n) (j : Fin k),
    (factor (.start p draw k)).counted[i][j] = prior.shape
  count_counted : ∀ (s : State ℝ users items k) (i : Fin n) (j : Fin k),
    (factor (Rows.count p s)).counted[i][j] = (factor s).counted[i][j] + gathered p s rowOf i j
  renewal_shape : ∀ s : State ℝ users items k,
    (factor ((Backend.rows.engine p).perform renewal s)).shape = (factor s).counted
  renewal_counted : ∀ (s : State ℝ users items k) (i : Fin n) (j : Fin k),
    (factor ((Backend.rows.engine p).perform renewal s)).counted[i][j] = prior.shape
  keeps_shape : ∀ x ≠ renewal, ∀ s : State ℝ users items k,
    (factor ((Backend.rows.engine p).perform x s)).shape = (factor s).shape
  keeps_counted : ∀ x ≠ renewal, x ≠ .count → ∀ s : State ℝ users items k,
    (factor ((Backend.rows.engine p).perform x s)).counted = (factor s).counted

namespace Account

/-- The account of the users. -/
def ofUsers (p : Problem ℝ users items) : Account p users k where
  factor := State.users
  prior := p.userPrior
  rowOf := Observation.user
  renewal := .renewUsers
  start_counted _ i j := Table.getElem_constant _ i j
  count_counted s u j := Rows.count_users_counted p s u j
  renewal_shape _ := rfl
  renewal_counted s u j := Rows.renew_counted p.userPrior s.users s.items u j
  keeps_shape x hx s := by
    cases x with
    | renewUsers => exact absurd rfl hx
    | count | renewItems | fixActivity => rfl
  keeps_counted x hx hc s := by
    cases x with
    | count => exact absurd rfl hc
    | renewUsers => exact absurd rfl hx
    | renewItems | fixActivity => rfl

/-- The account of the items. -/
def ofItems (p : Problem ℝ users items) : Account p items k where
  factor := State.items
  prior := p.itemPrior
  rowOf := Observation.item
  renewal := .renewItems
  start_counted _ i j := Table.getElem_constant _ i j
  count_counted s i j := Rows.count_items_counted p s i j
  renewal_shape _ := rfl
  renewal_counted s i j := Rows.renew_counted p.itemPrior s.items s.users i j
  keeps_shape x hx s := by
    cases x with
    | renewItems => exact absurd rfl hx
    | count | renewUsers | fixActivity => rfl
  keeps_counted x hx hc s := by
    cases x with
    | count => exact absurd rfl hc
    | renewItems => exact absurd rfl hx
    | renewUsers | fixActivity => rfl

/-! ## The shapes of a row, added up -/

variable {p : Problem ℝ users items} (a : Account p n k)

/-- A row of priors holds the prior once for every feature. -/
theorem sum_prior {row : Vector ℝ k} (h : ∀ j : Fin k, row[j] = a.prior.shape) :
    ∑ j : Fin k, row[j] = k * a.prior.shape := by
  rw [Finset.sum_congr rfl fun j _ => h j, Finset.sum_const, Finset.card_univ, Fintype.card_fin,
    nsmul_eq_mul]

/-- Counting adds what the ratings of the row are worth; only a renewal does anything else. -/
theorem sum_counted_perform (hk : 1 ≤ k) (i : Fin n) {x : Phase} (hx : x ≠ a.renewal)
    (s : State ℝ users items k) :
    ∑ j : Fin k, (a.factor ((Backend.rows.engine p).perform x s)).counted[i][j]
      = ∑ j : Fin k, (a.factor s).counted[i][j]
        + if x = .count then massOf p a.rowOf i else 0 := by
  by_cases hc : x = .count
  · subst hc
    rw [if_pos rfl, ← sum_gathered hk p s, ← Finset.sum_add_distrib]
    exact Finset.sum_congr rfl fun j _ => a.count_counted s i j
  · rw [if_neg hc, add_zero, a.keeps_counted x hx hc]

/-- The shapes being counted hold the prior and what was counted since the last renewal. -/
theorem sum_counted (hk : 1 ≤ k) (draw : Nat → ℝ) (phases : List Phase) (i : Fin n) :
    ∑ j : Fin k,
        (a.factor ((Backend.rows.engine p).performAll phases (.start p draw k))).counted[i][j]
      = k * a.prior.shape + countsSince a.renewal phases * massOf p a.rowOf i :=
  Engine.emptied_and_filled (Backend.rows.engine p)
    (fun s => ∑ j : Fin k, (a.factor s).counted[i][j])
    (fun s => a.sum_prior fun j => a.renewal_counted s i j)
    (fun _ hx s => a.sum_counted_perform hk i hx s) phases
    (a.sum_prior fun j => a.start_counted draw i j)

/-- The shapes in use hold the prior and what was counted between the last renewal and the one
before it. -/
theorem sum_shape (hk : 1 ≤ k) (draw : Nat → ℝ) (before : List Phase) {after : List Phase}
    (hafter : a.renewal ∉ after) (i : Fin n) :
    ∑ j : Fin k, (a.factor ((Backend.rows.engine p).performAll
        (before ++ a.renewal :: after) (.start p draw k))).shape[i][j]
      = k * a.prior.shape + countsSince a.renewal before * massOf p a.rowOf i := by
  rw [← a.sum_counted hk draw before i]
  refine Engine.taken_over (Backend.rows.engine p)
    (fun s => ∑ j : Fin k, (a.factor s).shape[i][j])
    (fun s => ∑ j : Fin k, (a.factor s).counted[i][j]) ?_ ?_ before hafter _
  · intro s
    rw [a.renewal_shape]
  · intro x hx s
    rw [a.keeps_shape x hx]

end Account

end PoissonFactor
