import PoissonFactor.Proofs.Model.Entries
import PoissonFactor.Proofs.Model.Phases

/-!
# Positivity in any order of phases

Ten tables are written by four phases, and each phase divides by what the others left
behind. Two invariants carry all of it, and neither follows from the other's being
merely positive once:

> `Factor.Positive`: every entry of a side is above zero.

> `Factor.Above`: no shape, and no count of shapes, is ever below its prior.

A rate is a sum of means of the other side, which may be empty, plus a mean of the
side's own activity, which is not; so a rate is above zero even for a side without
any rating. `State.performAll_positive` and `State.performAll_above` carry both
invariants through any sequence of phases, and a positive state passes every check
(`State.check_of_positive`).
-/

namespace PoissonFactor

variable {users items n m k : Nat}

/-! ## What is asked of a problem -/

/-- The three priors of a side are positive. -/
structure SidePrior.Positive (prior : SidePrior ℝ) : Prop where
  shape : 0 < prior.shape
  activityShape : 0 < prior.activityShape
  activityRate : 0 < prior.activityRate

/-- Positive priors, and offsets that are not negative. -/
structure Problem.Proper (p : Problem ℝ users items) : Prop where
  userPrior : p.userPrior.Positive
  itemPrior : p.itemPrior.Positive
  offsetShape : 0 ≤ p.offsetShape
  offsetRate : 0 ≤ p.offsetRate

/-! ## The two invariants of a side -/

/-- Every entry of a side is above zero. -/
structure Factor.Positive (f : Factor ℝ n k) : Prop where
  shape : ∀ (i : Fin n) (j : Fin k), 0 < f.shape[i][j]
  rate : ∀ (i : Fin n) (j : Fin k), 0 < f.rate[i][j]
  activityShape : ∀ i : Fin n, 0 < f.activityShape[i]
  activityRate : ∀ i : Fin n, 0 < f.activityRate[i]
  counted : ∀ (i : Fin n) (j : Fin k), 0 < f.counted[i][j]

/-- No shape of a side is below its prior, nor is one that is being counted. -/
structure Factor.Above (prior : SidePrior ℝ) (f : Factor ℝ n k) : Prop where
  shape : ∀ (i : Fin n) (j : Fin k), prior.shape ≤ f.shape[i][j]
  activityShape : ∀ i : Fin n, prior.activityShape ≤ f.activityShape[i]
  counted : ∀ (i : Fin n) (j : Fin k), prior.shape ≤ f.counted[i][j]

/-- Both sides are positive. -/
structure State.Positive (s : State ℝ users items k) : Prop where
  users : s.users.Positive
  items : s.items.Positive

/-- Both sides stay above their priors. -/
structure State.Above (p : Problem ℝ users items) (s : State ℝ users items k) : Prop where
  users : s.users.Above p.userPrior
  items : s.items.Above p.itemPrior

/-- Means of positive parameters are positive. -/
theorem Factor.Positive.mean_pos {f : Factor ℝ n k} (h : f.Positive) (i : Fin n) (j : Fin k) :
    0 < f.shape[i][j] / f.rate[i][j] :=
  div_pos (h.shape i j) (h.rate i j)

/-- So are the means of the activities. -/
theorem Factor.Positive.activityMean_pos {f : Factor ℝ n k} (h : f.Positive) (i : Fin n) :
    0 < f.activityShape[i] / f.activityRate[i] :=
  div_pos (h.activityShape i) (h.activityRate i)

/-! ## What a check asks -/

/-- The entries of a table are those at its places. -/
theorem Table.mem_entries {β : Type} {t : Table β n m} {x : β} :
    x ∈ t.entries ↔ ∃ (i : Fin n) (j : Fin m), t[i][j] = x := by
  unfold Table.entries
  rw [List.mem_flatMap]
  constructor
  · rintro ⟨row, hrow, hx⟩
    obtain ⟨i, hi, rfl⟩ := Vector.getElem_of_mem (Vector.mem_toList_iff.mp hrow)
    obtain ⟨j, hj, rfl⟩ := Vector.getElem_of_mem (Vector.mem_toList_iff.mp hx)
    exact ⟨⟨i, hi⟩, ⟨j, hj⟩, rfl⟩
  · rintro ⟨i, j, rfl⟩
    exact ⟨t[i], Vector.mem_toList_iff.mpr (Vector.getElem_mem i.isLt),
      Vector.mem_toList_iff.mpr (Vector.getElem_mem j.isLt)⟩

theorem Row.mem_toList {β : Type} {v : Vector β n} {x : β} :
    x ∈ v.toList ↔ ∃ i : Fin n, v[i] = x := by
  rw [Vector.mem_toList_iff]
  constructor
  · intro hx
    obtain ⟨i, hi, rfl⟩ := Vector.getElem_of_mem hx
    exact ⟨⟨i, hi⟩, rfl⟩
  · rintro ⟨i, rfl⟩
    exact Vector.getElem_mem i.isLt

/-- What is positive at every place is positive as a list of entries. -/
theorem Factor.Positive.entries_shape {f : Factor ℝ n k} (h : f.Positive) :
    ∀ x ∈ f.shape.entries, 0 < x := by
  intro x hx
  obtain ⟨i, j, rfl⟩ := Table.mem_entries.mp hx
  exact h.shape i j

theorem Factor.Positive.entries_rate {f : Factor ℝ n k} (h : f.Positive) :
    ∀ x ∈ f.rate.entries, 0 < x := by
  intro x hx
  obtain ⟨i, j, rfl⟩ := Table.mem_entries.mp hx
  exact h.rate i j

theorem Factor.Positive.entries_activityShape {f : Factor ℝ n k} (h : f.Positive) :
    ∀ x ∈ f.activityShape.toList, 0 < x := by
  intro x hx
  obtain ⟨i, rfl⟩ := Row.mem_toList.mp hx
  exact h.activityShape i

theorem Factor.Positive.entries_activityRate {f : Factor ℝ n k} (h : f.Positive) :
    ∀ x ∈ f.activityRate.toList, 0 < x := by
  intro x hx
  obtain ⟨i, rfl⟩ := Row.mem_toList.mp hx
  exact h.activityRate i

/-- A check passes exactly when all eight checked parameters lie above zero. -/
theorem State.check_eq_ok_iff {α : Type} [Scalar α] (phase : String) (s : State α users items k) :
    s.check phase = .ok () ↔ ∀ x ∈ Parameter.all, s.keeps x = true := by
  unfold State.check
  cases h : Parameter.all.find? fun x => !s.keeps x with
  | none =>
    rw [List.find?_eq_none] at h
    simpa using h
  | some x =>
    constructor
    · intro hc
      cases hc
    · intro hall
      have hx := List.find?_some h
      rw [hall x (List.mem_of_find?_eq_some h)] at hx
      cases hx

variable [SpecialFunctions]

/-! ## The start -/

section

variable {prior : SidePrior ℝ} {offsetShape offsetRate : ℝ} {draw : Nat → ℝ}

/-- A start is above the priors, as draws are not negative. -/
theorem Factor.start_above (hs : 0 ≤ offsetShape) (hdraw : ∀ i, 0 ≤ draw i) (base : Nat) :
    (Factor.start prior offsetShape offsetRate draw base n k).Above prior where
  shape i j := by
    unfold Factor.start
    rw [Table.getElem_ofFn]
    exact le_add_of_nonneg_right (mul_nonneg hs (hdraw _))
  activityShape i := by
    unfold Factor.start
    rw [Row.getElem_ofFn]
    exact le_add_of_nonneg_right (mul_nonneg hs (hdraw _))
  counted i j := by
    unfold Factor.start
    rw [Table.getElem_constant]

/-- A start with proper priors is positive. -/
theorem Factor.start_positive (hp : prior.Positive) (hs : 0 ≤ offsetShape) (hr : 0 ≤ offsetRate)
    (hdraw : ∀ i, 0 ≤ draw i) (base : Nat) :
    (Factor.start prior offsetShape offsetRate draw base n k).Positive where
  shape i j := lt_of_lt_of_le hp.shape ((Factor.start_above hs hdraw base).shape i j)
  rate i j := by
    unfold Factor.start
    rw [Table.getElem_ofFn]
    exact add_pos_of_pos_of_nonneg hp.activityShape (mul_nonneg hr (hdraw _))
  activityShape i :=
    lt_of_lt_of_le hp.activityShape ((Factor.start_above hs hdraw base).activityShape i)
  activityRate i := by
    unfold Factor.start
    rw [Row.getElem_ofFn, Scalar.real_ofNat]
    exact add_pos_of_pos_of_nonneg hp.activityShape (Nat.cast_nonneg k)
  counted i j := lt_of_lt_of_le hp.shape ((Factor.start_above hs hdraw base).counted i j)

end

/-! ## One phase -/

namespace Rows

/-- Positive parameters are renewed to positive ones. -/
theorem renew_positive {prior : SidePrior ℝ} {own : Factor ℝ n k} {other : Factor ℝ m k}
    (hp : prior.Positive) (hown : own.Positive) (hother : other.Positive) :
    (renew prior own other).Positive := by
  have hrate : ∀ (i : Fin n) (j : Fin k), 0 < (renew prior own other).rate[i][j] := by
    intro i j
    have hsum : 0 ≤ ∑ x : Fin m, other.shape[x][j] / other.rate[x][j] :=
      Finset.sum_nonneg fun x _ => (hother.mean_pos x j).le
    rw [renew_rate]
    exact add_pos_of_nonneg_of_pos hsum (hown.activityMean_pos i)
  refine ⟨hown.counted, hrate, hown.activityShape, ?_, ?_⟩
  · intro i
    have hsum : 0 ≤ ∑ j : Fin k, own.counted[i][j] / (renew prior own other).rate[i][j] :=
      Finset.sum_nonneg fun j _ => (div_pos (hown.counted i j) (hrate i j)).le
    rw [renew_activityRate]
    exact add_pos_of_pos_of_nonneg (div_pos hp.activityShape hp.activityRate) hsum
  · intro i j
    rw [renew_counted]
    exact hp.shape

/-- Renewed shapes are the counted ones, and those are above the priors. -/
theorem renew_above {prior : SidePrior ℝ} {own : Factor ℝ n k} (other : Factor ℝ m k)
    (hown : own.Above prior) : (renew prior own other).Above prior where
  shape := hown.counted
  activityShape := hown.activityShape
  counted i j := (renew_counted prior own other i j).ge

/-- The final activity shape of a side lies above its prior. -/
theorem le_fixedShape {prior : SidePrior ℝ} (hp : prior.Positive) (k : Nat) :
    prior.activityShape ≤ fixedShape prior k :=
  le_add_of_nonneg_right (mul_nonneg (Nat.cast_nonneg k) hp.shape.le)

/-- Fixing the activities adds to their shapes. -/
theorem le_fixActivity_users {p : Problem ℝ users items} (hp : p.Proper)
    (s : State ℝ users items k) (u : Fin users) :
    p.userPrior.activityShape ≤ (fixActivity p s).users.activityShape[u] := by
  unfold fixActivity
  rw [Row.getElem_ofFn]
  exact le_fixedShape hp.userPrior k

theorem le_fixActivity_items {p : Problem ℝ users items} (hp : p.Proper)
    (s : State ℝ users items k) (i : Fin items) :
    p.itemPrior.activityShape ≤ (fixActivity p s).items.activityShape[i] := by
  unfold fixActivity
  rw [Row.getElem_ofFn]
  exact le_fixedShape hp.itemPrior k

/-- Counting takes nothing away. -/
theorem le_count_users (p : Problem ℝ users items) (s : State ℝ users items k) (u : Fin users)
    (j : Fin k) : s.users.counted[u][j] ≤ (count p s).users.counted[u][j] := by
  rw [count_users_counted]
  exact le_add_of_nonneg_right (gathered_nonneg p s _ u j)

/-- Counting adds shares that are not negative. -/
theorem le_count_items (p : Problem ℝ users items) (s : State ℝ users items k) (i : Fin items)
    (j : Fin k) : s.items.counted[i][j] ≤ (count p s).items.counted[i][j] := by
  rw [count_items_counted]
  exact le_add_of_nonneg_right (gathered_nonneg p s _ i j)

end Rows

namespace State

variable {p : Problem ℝ users items} {s : State ℝ users items k}

/-- Counting keeps all parameters positive. -/
theorem count_positive (h : s.Positive) : (Rows.count p s).Positive where
  users := { h.users with
    counted := fun u j => lt_of_lt_of_le (h.users.counted u j) (Rows.le_count_users p s u j) }
  items := { h.items with
    counted := fun i j => lt_of_lt_of_le (h.items.counted i j) (Rows.le_count_items p s i j) }

/-- It keeps them above the priors as well. -/
theorem count_above (h : s.Above p) : (Rows.count p s).Above p where
  users := { h.users with
    counted := fun u j => le_trans (h.users.counted u j) (Rows.le_count_users p s u j) }
  items := { h.items with
    counted := fun i j => le_trans (h.items.counted i j) (Rows.le_count_items p s i j) }

/-- Fixing the activities keeps all parameters positive. -/
theorem fixActivity_positive (hp : p.Proper) (h : s.Positive) :
    (Rows.fixActivity p s).Positive where
  users := { h.users with
    activityShape := fun u =>
      lt_of_lt_of_le hp.userPrior.activityShape (Rows.le_fixActivity_users hp s u) }
  items := { h.items with
    activityShape := fun i =>
      lt_of_lt_of_le hp.itemPrior.activityShape (Rows.le_fixActivity_items hp s i) }

theorem fixActivity_above (hp : p.Proper) (h : s.Above p) :
    (Rows.fixActivity p s).Above p where
  users := { h.users with activityShape := Rows.le_fixActivity_users hp s }
  items := { h.items with activityShape := Rows.le_fixActivity_items hp s }

/-- **One step.** Every phase keeps a state positive. -/
theorem perform_positive (hp : p.Proper) (x : Phase) (h : s.Positive) :
    ((Backend.rows.engine p).perform x s).Positive := by
  cases x with
  | count => exact count_positive h
  | renewUsers => exact ⟨Rows.renew_positive hp.userPrior h.users h.items, h.items⟩
  | renewItems => exact ⟨h.users, Rows.renew_positive hp.itemPrior h.items h.users⟩
  | fixActivity => exact fixActivity_positive hp h

/-- **One step.** Every phase keeps the shapes above their priors. -/
theorem perform_above (hp : p.Proper) (x : Phase) (h : s.Above p) :
    ((Backend.rows.engine p).perform x s).Above p := by
  cases x with
  | count => exact count_above h
  | renewUsers => exact ⟨Rows.renew_above s.items h.users, h.items⟩
  | renewItems => exact ⟨h.users, Rows.renew_above s.users h.items⟩
  | fixActivity => exact fixActivity_above hp h

/-! ## Any sequence of phases -/

/-- **Any sequence of phases keeps all parameters positive**, one phase at a time. -/
theorem performAll_positive (hp : p.Proper) (phases : List Phase) (h : s.Positive) :
    ((Backend.rows.engine p).performAll phases s).Positive :=
  Engine.performAll_keeps _ _ (fun x _ _ => perform_positive hp x) h

/-- Any sequence of phases keeps them above the priors. -/
theorem performAll_above (hp : p.Proper) (phases : List Phase) (h : s.Above p) :
    ((Backend.rows.engine p).performAll phases s).Above p :=
  Engine.performAll_keeps _ _ (fun x _ _ => perform_above hp x) h

/-- A random start is positive. -/
theorem start_positive (hp : p.Proper) {draw : Nat → ℝ} (hdraw : ∀ i, 0 ≤ draw i) :
    (State.start p draw k).Positive where
  users := Factor.start_positive hp.userPrior hp.offsetShape hp.offsetRate hdraw _
  items := Factor.start_positive hp.itemPrior hp.offsetShape hp.offsetRate hdraw _

/-- A random start is above the priors. -/
theorem start_above (hp : p.Proper) {draw : Nat → ℝ} (hdraw : ∀ i, 0 ≤ draw i) :
    (State.start p draw k).Above p where
  users := Factor.start_above hp.offsetShape hdraw _
  items := Factor.start_above hp.offsetShape hdraw _

/-! ## What positivity is good for -/

/-- The check of an array looks at each of its entries. -/
theorem keeps_iff (s : State ℝ users items k) (x : Parameter) :
    s.keeps x = true ↔ ∀ y ∈ s.parameter x, 0 < y := by
  unfold State.keeps
  rw [List.all_eq_true]
  simp only [Scalar.real_isPositive]

/-- A positive state passes every check. -/
theorem check_of_positive (h : s.Positive) (phase : String) : s.check phase = .ok () := by
  rw [check_eq_ok_iff]
  intro x _
  rw [keeps_iff]
  cases x with
  | gammaRate => exact h.users.entries_rate
  | kappaRate => exact h.users.entries_activityRate
  | lambdaRate => exact h.items.entries_rate
  | tauRate => exact h.items.entries_activityRate
  | gammaShape => exact h.users.entries_shape
  | kappaShape => exact h.users.entries_activityShape
  | lambdaShape => exact h.items.entries_shape
  | tauShape => exact h.items.entries_activityShape

/-- A state that passed a check is positive as soon as its counts are. -/
theorem positive_of_check {phase : String} (h : s.check phase = .ok ())
    (hu : ∀ (u : Fin users) (j : Fin k), 0 < s.users.counted[u][j])
    (hi : ∀ (i : Fin items) (j : Fin k), 0 < s.items.counted[i][j]) : s.Positive := by
  have hkeeps : ∀ x : Parameter, ∀ y ∈ s.parameter x, 0 < y := by
    intro x
    rw [← keeps_iff]
    exact (check_eq_ok_iff phase s).mp h x (by cases x <;> decide)
  exact {
    users := {
      shape := fun u j => hkeeps .gammaShape _ (Table.mem_entries.mpr ⟨u, j, rfl⟩)
      rate := fun u j => hkeeps .gammaRate _ (Table.mem_entries.mpr ⟨u, j, rfl⟩)
      activityShape := fun u => hkeeps .kappaShape _ (Row.mem_toList.mpr ⟨u, rfl⟩)
      activityRate := fun u => hkeeps .kappaRate _ (Row.mem_toList.mpr ⟨u, rfl⟩)
      counted := hu }
    items := {
      shape := fun i j => hkeeps .lambdaShape _ (Table.mem_entries.mpr ⟨i, j, rfl⟩)
      rate := fun i j => hkeeps .lambdaRate _ (Table.mem_entries.mpr ⟨i, j, rfl⟩)
      activityShape := fun i => hkeeps .tauShape _ (Row.mem_toList.mpr ⟨i, rfl⟩)
      activityRate := fun i => hkeeps .tauRate _ (Row.mem_toList.mpr ⟨i, rfl⟩)
      counted := hi } }

/-- The rate of a pair is above zero as soon as there is a feature. -/
theorem pairRate_pos (hk : 1 ≤ k) (h : s.Positive) (u : Fin users) (i : Fin items) :
    0 < Rows.pairRate s u i := by
  unfold Rows.pairRate
  rw [Scalar.real_total]
  exact Finset.sum_pos (fun j _ => mul_pos (h.users.mean_pos u j) (h.items.mean_pos i j))
    ⟨⟨0, hk⟩, Finset.mem_univ _⟩

end State

end PoissonFactor
