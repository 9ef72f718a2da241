import PoissonFactor.Proofs.Model.Entries
import PoissonFactor.Proofs.Model.Phases

/-!
# An iteration is one coordinate update

The phases share two tables of shapes per side, one that is in use and one that fills
up. This file writes down what an iteration is meant to compute, from one state to the
next and with every sum spelled out (`Coordinate.update`), and shows that the phases
compute it:

> `Coordinate.iterate_eq`: the phases of an iteration, taken from a state whose counts
> are empty, give the updated state but for the activity shapes.

> `Coordinate.performAll_iterationPhases`: with the activity shapes set behind the first
> iteration, that is the whole updated state.

The conditions hold of a start and every iteration leaves them behind
(`Coordinate.Ready`), so they hold all along.
-/

namespace PoissonFactor

variable [SpecialFunctions] {users items n m k : Nat}

/-! ## The phases, table by table -/

/-- Renewing writes the counted shapes and the rates that follow from the other side. -/
theorem Rows.renew_eq (prior : SidePrior ℝ) {own : Factor ℝ n k} {other : Factor ℝ m k}
    {shape rate : Fin n → Fin k → ℝ} (hshape : own.counted = Table.ofFn shape)
    (hrate : ∀ i j, rate i j = ∑ x : Fin m, other.shape[x][j] / other.rate[x][j]
      + own.activityShape[i] / own.activityRate[i]) :
    renew prior own other =
      { shape := Table.ofFn shape
        rate := Table.ofFn rate
        activityShape := own.activityShape
        activityRate := Vector.ofFn fun i =>
          prior.activityShape / prior.activityRate + ∑ j : Fin k, shape i j / rate i j
        counted := Table.constant prior.shape } := by
  have hrates : (renew prior own other).rate = Table.ofFn rate :=
    Table.ext fun i j => by rw [renew_rate, Table.getElem_ofFn, hrate]
  have hactivity : (renew prior own other).activityRate = Vector.ofFn fun i =>
      prior.activityShape / prior.activityRate + ∑ j : Fin k, shape i j / rate i j := by
    apply Row.ext
    intro i
    rw [renew_activityRate, Row.getElem_ofFn, hrates, hshape]
    simp only [Table.getElem_ofFn]
  rw [← hrates, ← hactivity, ← hshape]
  rfl

/-- Counting from a constant gives that constant and what is gathered. -/
theorem Rows.count_users_counted_of_constant (p : Problem ℝ users items)
    {s : State ℝ users items k} {b : ℝ} (h : s.users.counted = Table.constant b) :
    (count p s).users.counted = Table.ofFn fun u j => b + gathered p s Observation.user u j :=
  Table.ext fun u j => by
    rw [count_users_counted, h, Table.getElem_constant, Table.getElem_ofFn]

theorem Rows.count_items_counted_of_constant (p : Problem ℝ users items)
    {s : State ℝ users items k} {b : ℝ} (h : s.items.counted = Table.constant b) :
    (count p s).items.counted = Table.ofFn fun i j => b + gathered p s Observation.item i j :=
  Table.ext fun i j => by
    rw [count_items_counted, h, Table.getElem_constant, Table.getElem_ofFn]

namespace Coordinate

/-! ## The update -/

/-- One update of all parameters. The shapes and the users' rates are taken from the state `s`
alone; the items' rates see the new users, and the activity rates the new rates of their own
side. -/
noncomputable def update (p : Problem ℝ users items) (s : State ℝ users items k) :
    State ℝ users items k :=
  let userShape (u : Fin users) (j : Fin k) : ℝ :=
    p.userPrior.shape + gathered p s Observation.user u j
  let userRate (u : Fin users) (j : Fin k) : ℝ :=
    ∑ i : Fin items, s.items.shape[i][j] / s.items.rate[i][j]
      + s.users.activityShape[u] / s.users.activityRate[u]
  let itemShape (i : Fin items) (j : Fin k) : ℝ :=
    p.itemPrior.shape + gathered p s Observation.item i j
  let itemRate (i : Fin items) (j : Fin k) : ℝ :=
    ∑ u : Fin users, userShape u j / userRate u j
      + s.items.activityShape[i] / s.items.activityRate[i]
  { users := {
      shape := Table.ofFn userShape
      rate := Table.ofFn userRate
      activityShape := Vector.ofFn fun _ => p.userPrior.activityShape + k * p.userPrior.shape
      activityRate := Vector.ofFn fun u =>
        p.userPrior.activityShape / p.userPrior.activityRate
          + ∑ j : Fin k, userShape u j / userRate u j
      counted := Table.constant p.userPrior.shape }
    items := {
      shape := Table.ofFn itemShape
      rate := Table.ofFn itemRate
      activityShape := Vector.ofFn fun _ => p.itemPrior.activityShape + k * p.itemPrior.shape
      activityRate := Vector.ofFn fun i =>
        p.itemPrior.activityShape / p.itemPrior.activityRate
          + ∑ j : Fin k, itemShape i j / itemRate i j
      counted := Table.constant p.itemPrior.shape } }

/-- What an iteration finds, `before` iterations having gone before: empty counts and, behind the
first, the final activity shapes. -/
structure Ready (p : Problem ℝ users items) (before : Nat) (s : State ℝ users items k) : Prop where
  users : s.users.counted = Table.constant p.userPrior.shape
  items : s.items.counted = Table.constant p.itemPrior.shape
  usersFixed : before ≠ 0 →
    s.users.activityShape = Vector.ofFn fun _ => p.userPrior.activityShape + k * p.userPrior.shape
  itemsFixed : before ≠ 0 →
    s.items.activityShape = Vector.ofFn fun _ => p.itemPrior.activityShape + k * p.itemPrior.shape

/-- A start is ready for the first iteration. -/
theorem ready_start (p : Problem ℝ users items) (draw : Nat → ℝ) :
    Ready p 0 (.start p draw k : State ℝ users items k) where
  users := rfl
  items := rfl
  usersFixed h := absurd rfl h
  itemsFixed h := absurd rfl h

/-- An update leaves what the next one needs. -/
theorem ready_update (p : Problem ℝ users items) (before : Nat) (s : State ℝ users items k) :
    Ready p before (update p s) where
  users := rfl
  items := rfl
  usersFixed _ := rfl
  itemsFixed _ := rfl

/-! ## The phases compute it -/

/-- From empty counts, an iteration gives the updated state but for the activity shapes. -/
theorem iterate_eq (p : Problem ℝ users items) {before : Nat} {s : State ℝ users items k}
    (h : Ready p before s) :
    (Backend.rows.engine p).iterate s =
      { users := { (update p s).users with activityShape := s.users.activityShape }
        items := { (update p s).items with activityShape := s.items.activityShape } } := by
  have husers : Rows.renew p.userPrior (Rows.count p s).users (Rows.count p s).items
      = { (update p s).users with activityShape := s.users.activityShape } :=
    Rows.renew_eq p.userPrior (Rows.count_users_counted_of_constant p h.users) fun _ _ => rfl
  have hitems : Rows.renew p.itemPrior (Rows.count p s).items
        { (update p s).users with activityShape := s.users.activityShape }
      = { (update p s).items with activityShape := s.items.activityShape } :=
    Rows.renew_eq p.itemPrior (Rows.count_items_counted_of_constant p h.items) fun i j => by
      simp only [update, Table.getElem_ofFn]
      rfl
  show State.mk (Rows.renew p.userPrior (Rows.count p s).users (Rows.count p s).items)
    (Rows.renew p.itemPrior (Rows.count p s).items
      (Rows.renew p.userPrior (Rows.count p s).users (Rows.count p s).items)) = _
  rw [husers, hitems]

/-- The phases of an iteration compute the update. -/
theorem performAll_iterationPhases (p : Problem ℝ users items) {before : Nat}
    {s : State ℝ users items k} (h : Ready p before s) :
    (Backend.rows.engine p).performAll (iterationPhases before) s = update p s := by
  unfold iterationPhases
  rw [Engine.performAll_append]
  show (Backend.rows.engine p).performAll _ ((Backend.rows.engine p).iterate s) = _
  rw [iterate_eq p h]
  by_cases hb : before = 0
  · rw [if_pos hb]
    rfl
  · rw [if_neg hb, h.usersFixed hb, h.itemsFixed hb]
    rfl

end Coordinate

end PoissonFactor
