import PoissonFactor.Proofs.Model.Coordinate
import PoissonFactor.Proofs.Model.Evidence
import PoissonFactor.Proofs.Model.Positivity

/-!
# An update never lowers the evidence bound

Once the ratings are shared out in fixed proportions, the bound falls into terms of single
gamma distributions, each of them largest at parameters that can be read off the term
(`gammaTerm_le`). The terms of a row are tied together by one product, that of the row's
activity with its entries. It can be booked with the entries or with the activity
(`Factor.rowTerm_eq_entries`, `Factor.rowTerm_eq_activity`), and renewing a side sets the
entries by the first account and the activity by the second:

> `Factor.Renewed.rowTerm_le`: renewing a side raises the terms of all its rows.

> `Coordinate.evidence_le_update`: with the users renewed before the items, an update
> never lowers the bound.

The activity shapes enter only the activity's own term. So it makes no difference that
those of the start are replaced behind everything else.
-/

namespace PoissonFactor

variable [SpecialFunctions] {users items n m k : Nat}

/-! ## One gamma distribution -/

/-- What a gamma distribution is worth if its logarithm is weighed with `a - 1` and its mean
with `-b`. -/
noncomputable def gammaTerm (a b shape rate : ℝ) : ℝ :=
  (a - 1) * meanLog shape rate - b * (shape / rate) + entropy shape rate

/-- The term is the tangent of the logarithm of the mass, taken at its own parameters. -/
theorem gammaTerm_eq_tangent (hexact : SpecialFunctions.Exact) {shape rate : ℝ} (hs : 0 < shape)
    (hr : 0 < rate) (a b : ℝ) :
    gammaTerm a b shape rate = logMass shape rate
      + ((logDeriv Real.Gamma shape - Real.log rate) * (a - shape)
        - shape / rate * (b - rate)) := by
  have hdigamma : Scalar.digamma shape = logDeriv Real.Gamma shape :=
    (hexact.digamma shape hs).unique (hasDerivAt_log_Gamma hs)
  have hlogGamma : Scalar.logGamma shape = Real.log (Real.Gamma shape) := hexact.logGamma shape hs
  have hmean : shape / rate * rate = shape := div_mul_cancel₀ shape hr.ne'
  unfold gammaTerm meanLog entropy logMass
  rw [hdigamma, hlogGamma]
  linear_combination -hmean

/-- The term is largest where shape and rate are the weights themselves. -/
theorem gammaTerm_le (hexact : SpecialFunctions.Exact) {a b shape rate : ℝ} (ha : 0 < a)
    (hb : 0 < b) (hs : 0 < shape) (hr : 0 < rate) :
    gammaTerm a b shape rate ≤ gammaTerm a b a b := by
  have htop : gammaTerm a b a b = logMass a b := by
    rw [gammaTerm_eq_tangent hexact ha hb]
    ring
  rw [htop, gammaTerm_eq_tangent hexact hs hr]
  exact logMass_tangent_le hs hr ha hb

/-! ## One row -/

/-- What a row is worth by itself, if `count` is what its entries were given. -/
noncomputable def Factor.ownTerm (prior : SidePrior ℝ) (count : Fin n → Fin k → ℝ)
    (f : Factor ℝ n k) (i : Fin n) : ℝ :=
  ∑ j : Fin k, count i j * expectedLog f i j + f.priorTerm prior i + f.entropy i

/-- The means of a feature, added up over the rows. -/
noncomputable def Factor.meanTotal (f : Factor ℝ n k) (j : Fin k) : ℝ :=
  ∑ i : Fin n, f.mean i j

/-- What a row is worth to the whole bound: its own term, and its rates with the rows of the other
side. -/
noncomputable def Factor.rowTerm (prior : SidePrior ℝ) (count : Fin n → Fin k → ℝ)
    (total : Fin k → ℝ) (f : Factor ℝ n k) (i : Fin n) : ℝ :=
  f.ownTerm prior count i - ∑ j : Fin k, total j * f.mean i j

section

variable (prior : SidePrior ℝ) (count : Fin n → Fin k → ℝ) (total : Fin k → ℝ)
  (f : Factor ℝ n k) (i : Fin n)

/-- A row's activity enters once for every entry. -/
theorem sum_shape_mul_activityMeanLog :
    ∑ _j : Fin k, prior.shape * f.activityMeanLog i
      = k * prior.shape * f.activityMeanLog i := by
  rw [Finset.sum_const, Finset.card_univ, Fintype.card_fin, nsmul_eq_mul, mul_assoc]

/-- A row's term with the activity booked on the entries. -/
theorem Factor.rowTerm_eq_entries :
    f.rowTerm prior count total i =
      ∑ j : Fin k, gammaTerm (prior.shape + count i j) (total j + f.activityMean i)
          f.shape[i][j] f.rate[i][j]
        + gammaTerm (prior.activityShape + k * prior.shape)
            (prior.activityShape / prior.activityRate) f.activityShape[i] f.activityRate[i] := by
  have hentry : ∀ j : Fin k, gammaTerm (prior.shape + count i j) (total j + f.activityMean i)
      f.shape[i][j] f.rate[i][j] = count i j * expectedLog f i j
        + (prior.shape - 1) * expectedLog f i j - total j * f.mean i j
        - f.activityMean i * f.mean i j + PoissonFactor.entropy f.shape[i][j] f.rate[i][j] := by
    intro j
    unfold gammaTerm meanLog expectedLog Factor.mean
    ring
  have hactivity : gammaTerm (prior.activityShape + k * prior.shape)
      (prior.activityShape / prior.activityRate) f.activityShape[i] f.activityRate[i]
        = (prior.activityShape + k * prior.shape - 1) * f.activityMeanLog i
          - prior.activityShape / prior.activityRate * f.activityMean i
          + PoissonFactor.entropy f.activityShape[i] f.activityRate[i] := rfl
  have hlog := sum_shape_mul_activityMeanLog prior f i
  simp only [hentry, hactivity]
  unfold Factor.rowTerm Factor.ownTerm Factor.priorTerm Factor.entropy
  simp only [Finset.sum_add_distrib, Finset.sum_sub_distrib]
  linear_combination hlog

/-- A row's term with the entries booked on the activity. -/
theorem Factor.rowTerm_eq_activity :
    f.rowTerm prior count total i =
      ∑ j : Fin k, gammaTerm (prior.shape + count i j) (total j) f.shape[i][j] f.rate[i][j]
        + gammaTerm (prior.activityShape + k * prior.shape)
            (prior.activityShape / prior.activityRate + ∑ j : Fin k, f.mean i j)
            f.activityShape[i] f.activityRate[i] := by
  have hentry : ∀ j : Fin k, gammaTerm (prior.shape + count i j) (total j + f.activityMean i)
      f.shape[i][j] f.rate[i][j]
        = gammaTerm (prior.shape + count i j) (total j) f.shape[i][j] f.rate[i][j]
          - f.activityMean i * f.mean i j := by
    intro j
    unfold gammaTerm Factor.mean
    ring
  rw [Factor.rowTerm_eq_entries]
  simp only [hentry]
  rw [Finset.sum_sub_distrib, ← Finset.mul_sum]
  unfold gammaTerm Factor.activityMean
  ring

end

/-! ## One side -/

/-- The side `g` is `f` renewed: from what was counted, the totals of the other side, and the
activities that `f` had. -/
structure Factor.Renewed (prior : SidePrior ℝ) (count : Fin n → Fin k → ℝ) (total : Fin k → ℝ)
    (f g : Factor ℝ n k) : Prop where
  shape : ∀ (i : Fin n) (j : Fin k), g.shape[i][j] = prior.shape + count i j
  rate : ∀ (i : Fin n) (j : Fin k), g.rate[i][j] = total j + f.activityMean i
  activityShape : ∀ i : Fin n, g.activityShape[i] = prior.activityShape + k * prior.shape
  activityRate : ∀ i : Fin n,
    g.activityRate[i] = prior.activityShape / prior.activityRate + ∑ j : Fin k, g.mean i j

/-- Renewing a side raises the terms of all its rows: first its entries are set to the best there
are for the old activity, then its activity to the best there is for the new entries. -/
theorem Factor.Renewed.rowTerm_le (hexact : SpecialFunctions.Exact) {prior : SidePrior ℝ}
    {count : Fin n → Fin k → ℝ} {total : Fin k → ℝ} {f g : Factor ℝ n k}
    (h : Renewed prior count total f g) (hf : f.Positive) (hg : g.Positive) (i : Fin n) :
    f.rowTerm prior count total i ≤ g.rowTerm prior count total i := by
  let half : Factor ℝ n k :=
    { g with activityShape := f.activityShape, activityRate := f.activityRate }
  have hentries : f.rowTerm prior count total i ≤ half.rowTerm prior count total i := by
    rw [rowTerm_eq_entries, rowTerm_eq_entries]
    refine add_le_add (Finset.sum_le_sum fun j _ => ?_) (le_refl _)
    show gammaTerm _ (total j + f.activityMean i) _ _
      ≤ gammaTerm _ (total j + f.activityMean i) g.shape[i][j] g.rate[i][j]
    rw [← h.shape i j, ← h.rate i j]
    exact gammaTerm_le hexact (hg.shape i j) (hg.rate i j) (hf.shape i j) (hf.rate i j)
  have hactivity : half.rowTerm prior count total i ≤ g.rowTerm prior count total i := by
    rw [rowTerm_eq_activity, rowTerm_eq_activity]
    refine add_le_add (le_refl _) ?_
    show gammaTerm _ (prior.activityShape / prior.activityRate + ∑ j : Fin k, g.mean i j)
        f.activityShape[i] f.activityRate[i] ≤ _
    rw [← h.activityShape i, ← h.activityRate i]
    exact gammaTerm_le hexact (hg.activityShape i) (hg.activityRate i) (hf.activityShape i)
      (hf.activityRate i)
  exact hentries.trans hactivity

theorem Factor.overlap_comm (f : Factor ℝ n k) (g : Factor ℝ m k) :
    f.overlap g = g.overlap f := by
  unfold overlap
  rw [Finset.sum_comm]
  simp only [mul_comm]

theorem Factor.sum_rowTerm (prior : SidePrior ℝ) (count : Fin n → Fin k → ℝ) (f : Factor ℝ n k)
    (other : Factor ℝ m k) :
    ∑ i : Fin n, f.rowTerm prior count other.meanTotal i
      = ∑ i : Fin n, f.ownTerm prior count i - f.overlap other := by
  have hrow : ∀ i : Fin n, ∑ j : Fin k, other.meanTotal j * f.mean i j
      = ∑ x : Fin m, ∑ j : Fin k, f.mean i j * other.mean x j := by
    intro i
    rw [Finset.sum_comm]
    refine Finset.sum_congr rfl fun j _ => ?_
    unfold meanTotal
    rw [← Finset.mul_sum, mul_comm]
  unfold rowTerm overlap
  rw [Finset.sum_sub_distrib]
  simp only [hrow]

/-- Renewing a side from the other raises what it is worth by itself and together with that
other. -/
theorem Factor.Renewed.sum_ownTerm_le (hexact : SpecialFunctions.Exact) {prior : SidePrior ℝ}
    {count : Fin n → Fin k → ℝ} {other : Factor ℝ m k} {f g : Factor ℝ n k}
    (h : Renewed prior count other.meanTotal f g) (hf : f.Positive) (hg : g.Positive) :
    ∑ i : Fin n, f.ownTerm prior count i - f.overlap other
      ≤ ∑ i : Fin n, g.ownTerm prior count i - g.overlap other := by
  rw [← sum_rowTerm, ← sum_rowTerm]
  exact Finset.sum_le_sum fun i _ => h.rowTerm_le hexact hf hg i

/-! ## Both sides -/

section

variable (p : Problem ℝ users items) (φ : Fin users → Fin items → Fin k → ℝ)

/-- What the entry of a user is given when the ratings are shared out by `φ`. -/
noncomputable def userCount (u : Fin users) (j : Fin k) : ℝ :=
  ∑ i : Fin items, pairWeight p.train u i * φ u i j

/-- What the entry of an item is given. -/
noncomputable def itemCount (i : Fin items) (j : Fin k) : ℝ :=
  ∑ u : Fin users, pairWeight p.train u i * φ u i j

/-- What the proportions cost, whatever the state. -/
noncomputable def shareCost : ℝ :=
  ∑ u : Fin users, ∑ i : Fin items,
    pairWeight p.train u i * ∑ j : Fin k, φ u i j * Real.log (φ u i j)

/-- With the ratings shared out, the bound falls into two sides and what they are worth
together. -/
theorem sharedEvidence_eq (s : State ℝ users items k) :
    sharedEvidence p φ s =
      ∑ u : Fin users, s.users.ownTerm p.userPrior (userCount p φ) u
        + ∑ i : Fin items, s.items.ownTerm p.itemPrior (itemCount p φ) i
        - s.users.overlap s.items - shareCost p φ := by
  have hpair : ∀ (u : Fin users) (i : Fin items), pairWeight p.train u i
      * ∑ j : Fin k, φ u i j * (logWeight s u i j - Real.log (φ u i j))
        = ∑ j : Fin k, pairWeight p.train u i * φ u i j * expectedLog s.users u j
          + ∑ j : Fin k, pairWeight p.train u i * φ u i j * expectedLog s.items i j
          - pairWeight p.train u i * ∑ j : Fin k, φ u i j * Real.log (φ u i j) := by
    intro u i
    simp only [Finset.mul_sum, ← Finset.sum_add_distrib, ← Finset.sum_sub_distrib]
    refine Finset.sum_congr rfl fun j _ => ?_
    unfold logWeight
    ring
  have husers : ∀ u : Fin users, ∑ i : Fin items, ∑ j : Fin k,
      pairWeight p.train u i * φ u i j * expectedLog s.users u j
        = ∑ j : Fin k, userCount p φ u j * expectedLog s.users u j := by
    intro u
    rw [Finset.sum_comm]
    exact Finset.sum_congr rfl fun j _ => (Finset.sum_mul _ _ _).symm
  have hitems : ∑ u : Fin users, ∑ i : Fin items, ∑ j : Fin k,
      pairWeight p.train u i * φ u i j * expectedLog s.items i j
        = ∑ i : Fin items, ∑ j : Fin k, itemCount p φ i j * expectedLog s.items i j := by
    rw [Finset.sum_comm]
    refine Finset.sum_congr rfl fun i _ => ?_
    rw [Finset.sum_comm]
    exact Finset.sum_congr rfl fun j _ => (Finset.sum_mul _ _ _).symm
  unfold sharedEvidence shareCost Factor.ownTerm
  simp only [hpair, Finset.sum_add_distrib, Finset.sum_sub_distrib, husers, hitems]
  ring

end

namespace Coordinate

variable {p : Problem ℝ users items} {s : State ℝ users items k}

theorem update_users_renewed (p : Problem ℝ users items) (s : State ℝ users items k) :
    s.users.Renewed p.userPrior (userCount p (responsibility s)) s.items.meanTotal
      (update p s).users where
  shape u j := (Table.getElem_ofFn _ u j).trans (congrArg _ (gathered_users_eq p s u j))
  rate u j := Table.getElem_ofFn _ u j
  activityShape u := Row.getElem_ofFn _ u
  activityRate u := by
    unfold update Factor.mean
    simp only [Row.getElem_ofFn, Table.getElem_ofFn]

theorem update_items_renewed (p : Problem ℝ users items) (s : State ℝ users items k) :
    s.items.Renewed p.itemPrior (itemCount p (responsibility s)) (update p s).users.meanTotal
      (update p s).items where
  shape i j := (Table.getElem_ofFn _ i j).trans (congrArg _ (gathered_items_eq p s i j))
  rate i j := by
    unfold update Factor.meanTotal Factor.mean
    simp only [Table.getElem_ofFn]
    rfl
  activityShape i := Row.getElem_ofFn _ i
  activityRate i := by
    unfold update Factor.mean
    simp only [Row.getElem_ofFn, Table.getElem_ofFn]

/-- An update reads no counts, so emptying them first changes nothing. -/
theorem update_positive (hp : p.Proper) (h : s.Positive) : (update p s).Positive := by
  let emptied : State ℝ users items k :=
    { users := { s.users with counted := Table.constant p.userPrior.shape }
      items := { s.items with counted := Table.constant p.itemPrior.shape } }
  have hready : Ready p 0 emptied := ⟨rfl, rfl, fun h => absurd rfl h, fun h => absurd rfl h⟩
  have hemptied : emptied.Positive :=
    { users := { h.users with
        counted := fun u j => (Table.getElem_constant _ u j).symm ▸ hp.userPrior.shape }
      items := { h.items with
        counted := fun i j => (Table.getElem_constant _ i j).symm ▸ hp.itemPrior.shape } }
  have hall := State.performAll_positive hp (iterationPhases 0) hemptied
  rw [performAll_iterationPhases p hready] at hall
  exact hall

/-- **An update never lowers the bound.** The ratings are shared out as the old state has it, which
leaves the bound as it is; then the users are renewed, then the items; and sharing out the ratings
as the new state has it can only raise the bound once more. -/
theorem evidence_le_update (hexact : SpecialFunctions.Exact) (hp : p.Proper) (hk : 1 ≤ k)
    (h : s.Positive) : evidence p s ≤ evidence p (update p s) := by
  have hnew := update_positive hp h
  have husers := (update_users_renewed p s).sum_ownTerm_le hexact h.users hnew.users
  have hitems := (update_items_renewed p s).sum_ownTerm_le hexact h.items hnew.items
  rw [Factor.overlap_comm s.items, Factor.overlap_comm (update p s).items] at hitems
  calc evidence p s
      = sharedEvidence p (responsibility s) s := (sharedEvidence_responsibility hk p s).symm
    _ ≤ sharedEvidence p (responsibility s) { s with users := (update p s).users } := by
        rw [sharedEvidence_eq, sharedEvidence_eq]
        linarith
    _ ≤ sharedEvidence p (responsibility s) (update p s) := by
        rw [sharedEvidence_eq, sharedEvidence_eq]
        linarith
    _ ≤ evidence p (update p s) :=
        sharedEvidence_le p (responsibility_pos s) (sum_responsibility hk s) _

end Coordinate

end PoissonFactor
