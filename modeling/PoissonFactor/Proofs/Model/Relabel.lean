import PoissonFactor.Proofs.Model.Columns
import PoissonFactor.Proofs.Model.Positivity

/-!
# Numbers of rows and features mean nothing

Users, items and features are numbered, and nothing else is known of them. This file
gives them other numbers: a permutation `π` of the users, `ρ` of the items and `σ` of
the features moves the rows and columns of all arrays (`State.relabel`) and renames the
ratings of both lists (`Problem.relabel`), so that what was row `u` is row `π u`.
Then

> `Rows.count_relabel`, `Rows.renew_relabel`, `Rows.fixActivity_relabel`: every phase
> goes along with the new numbers,

> `Rows.averageLogLikelihood_relabel`: and the likelihood does not see them,

because all they read of a numbering are sums over it. For counting this is where
softmax comes in: the running logarithm takes up the features from left to right, but
what it computes is a sum (`softmaxRow_getElem`). So any sequence of phases goes along
as well (`Engine.performAll_relabel`), and a check, which asks all entries the same,
finds the same (`State.check_relabel`).
-/

namespace PoissonFactor

/-! ## Other numbers -/

section

variable {β : Type} {n m k users items : Nat}

/-- A row with its entries moved by a permutation. -/
def Row.relabel (π : Equiv.Perm (Fin n)) (row : Vector β n) : Vector β n :=
  Vector.ofFn fun i => row[π.symm i]

/-- A table with its rows and columns moved by permutations. -/
def Table.relabel (π : Equiv.Perm (Fin m)) (σ : Equiv.Perm (Fin n)) (t : Table β m n) :
    Table β m n :=
  Table.ofFn fun i j => t[π.symm i][σ.symm j]

/-- All arrays of one side, moved. -/
def Factor.relabel (π : Equiv.Perm (Fin n)) (σ : Equiv.Perm (Fin k)) (f : Factor β n k) :
    Factor β n k where
  shape := Table.relabel π σ f.shape
  rate := Table.relabel π σ f.rate
  activityShape := Row.relabel π f.activityShape
  activityRate := Row.relabel π f.activityRate
  counted := Table.relabel π σ f.counted

/-- All ten arrays, moved. -/
def State.relabel (π : Equiv.Perm (Fin users)) (ρ : Equiv.Perm (Fin items))
    (σ : Equiv.Perm (Fin k)) (s : State β users items k) : State β users items k where
  users := s.users.relabel π σ
  items := s.items.relabel ρ σ

/-- A rating of the renamed user for the renamed item. -/
def Observation.relabel (π : Equiv.Perm (Fin users)) (ρ : Equiv.Perm (Fin items))
    (o : Observation β users items) : Observation β users items where
  user := π o.user
  item := ρ o.item
  value := o.value

/-- The same problem with the ratings of both lists renamed. -/
def Problem.relabel (π : Equiv.Perm (Fin users)) (ρ : Equiv.Perm (Fin items))
    (p : Problem β users items) : Problem β users items :=
  { p with
    train := p.train.map (Observation.relabel π ρ)
    validation := p.validation.map (Observation.relabel π ρ) }

/-- What was at a place is at its new place. -/
theorem Row.relabel_apply (π : Equiv.Perm (Fin n)) (row : Vector β n) (i : Fin n) :
    (Row.relabel π row)[π i] = row[i] := by
  unfold relabel
  rw [Row.getElem_ofFn, Equiv.symm_apply_apply]

theorem Table.relabel_apply (π : Equiv.Perm (Fin m)) (σ : Equiv.Perm (Fin n)) (t : Table β m n)
    (i : Fin m) (j : Fin n) : (Table.relabel π σ t)[π i][σ j] = t[i][j] := by
  unfold relabel
  rw [Table.getElem_ofFn, Equiv.symm_apply_apply, Equiv.symm_apply_apply]

/-- A row is told by what stands at the new numbers. -/
theorem Row.eq_relabel {π : Equiv.Perm (Fin n)} {v w : Vector β n} (h : ∀ i, v[π i] = w[i]) :
    v = Row.relabel π w := by
  apply Row.ext
  intro i
  obtain ⟨i, rfl⟩ := π.surjective i
  rw [Row.relabel_apply, h]

/-- A table that has at the new places what another had at the old ones is relabelled. -/
theorem Table.eq_relabel {π : Equiv.Perm (Fin m)} {σ : Equiv.Perm (Fin n)} {t t' : Table β m n}
    (h : ∀ (i : Fin m) (j : Fin n), t[π i][σ j] = t'[i][j]) : t = Table.relabel π σ t' := by
  apply Table.ext
  intro i j
  obtain ⟨i, rfl⟩ := π.surjective i
  obtain ⟨j, rfl⟩ := σ.surjective j
  rw [Table.relabel_apply, h]

/-- A constant table looks the same however it is labelled. -/
theorem Table.constant_relabel (π : Equiv.Perm (Fin m)) (σ : Equiv.Perm (Fin n)) (b : β) :
    Table.constant b = Table.relabel π σ (Table.constant b) :=
  Table.eq_relabel fun i j => by rw [Table.getElem_constant, Table.getElem_constant]

end

/-! ## What a check asks -/

section

variable {β : Type} {n m users items k : Nat}

/-- Relabelling keeps the entries. -/
theorem Row.mem_relabel {π : Equiv.Perm (Fin n)} {row : Vector β n} {x : β} :
    x ∈ (Row.relabel π row).toList ↔ x ∈ row.toList := by
  rw [Row.mem_toList, Row.mem_toList]
  constructor
  · rintro ⟨i, rfl⟩
    obtain ⟨i, rfl⟩ := π.surjective i
    exact ⟨i, (Row.relabel_apply π row i).symm⟩
  · rintro ⟨i, rfl⟩
    exact ⟨π i, Row.relabel_apply π row i⟩

theorem Table.mem_relabel {π : Equiv.Perm (Fin m)} {σ : Equiv.Perm (Fin n)} {t : Table β m n}
    {x : β} : x ∈ (Table.relabel π σ t).entries ↔ x ∈ t.entries := by
  rw [Table.mem_entries, Table.mem_entries]
  constructor
  · rintro ⟨i, j, rfl⟩
    obtain ⟨i, rfl⟩ := π.surjective i
    obtain ⟨j, rfl⟩ := σ.surjective j
    exact ⟨i, j, (Table.relabel_apply π σ t i j).symm⟩
  · rintro ⟨i, j, rfl⟩
    exact ⟨π i, σ j, Table.relabel_apply π σ t i j⟩

/-- The entries of a parameter are the same, in another order. -/
theorem State.mem_parameter_relabel (π : Equiv.Perm (Fin users)) (ρ : Equiv.Perm (Fin items))
    (σ : Equiv.Perm (Fin k)) (s : State β users items k) (p : Parameter) {x : β} :
    x ∈ (s.relabel π ρ σ).parameter p ↔ x ∈ s.parameter p := by
  cases p with
  | gammaShape => exact Table.mem_relabel
  | gammaRate => exact Table.mem_relabel
  | kappaShape => exact Row.mem_relabel
  | kappaRate => exact Row.mem_relabel
  | lambdaShape => exact Table.mem_relabel
  | lambdaRate => exact Table.mem_relabel
  | tauShape => exact Row.mem_relabel
  | tauRate => exact Row.mem_relabel

/-- **A check finds the same**: it passes alike, and names the same parameter. -/
theorem State.check_relabel [Scalar β] (π : Equiv.Perm (Fin users)) (ρ : Equiv.Perm (Fin items))
    (σ : Equiv.Perm (Fin k)) (phase : String) (s : State β users items k) :
    (s.relabel π ρ σ).check phase = s.check phase := by
  have hkeeps : ∀ p, (s.relabel π ρ σ).keeps p = s.keeps p := by
    intro p
    unfold State.keeps
    rw [Bool.eq_iff_iff, List.all_eq_true, List.all_eq_true]
    simp only [State.mem_parameter_relabel]
  unfold State.check
  simp only [hkeeps]

end

variable [SpecialFunctions] {users items n m k : Nat} (π : Equiv.Perm (Fin users))
  (ρ : Equiv.Perm (Fin items)) (σ : Equiv.Perm (Fin k))

/-! ## What a rating is worth -/

/-- What is computed from one place only moves with it. -/
theorem expectedLog_relabel (π : Equiv.Perm (Fin n)) (f : Factor ℝ n k) (i : Fin n) (j : Fin k) :
    expectedLog (f.relabel π σ) (π i) (σ j) = expectedLog f i j := by
  unfold expectedLog Factor.relabel
  rw [Table.relabel_apply, Table.relabel_apply]

/-- A feature under its new number has the share it had, since the shares are told by sums over
all features. -/
theorem responsibility_relabel (s : State ℝ users items k) (u : Fin users) (i : Fin items)
    (j : Fin k) :
    responsibility (s.relabel π ρ σ) (π u) (ρ i) (σ j) = responsibility s u i j := by
  have hweight : ∀ j, logWeight (s.relabel π ρ σ) (π u) (ρ i) (σ j) = logWeight s u i j := by
    intro j
    unfold logWeight State.relabel
    rw [expectedLog_relabel, expectedLog_relabel]
  unfold responsibility
  rw [← Equiv.sum_comp σ]
  simp only [hweight]

/-- What a count adds to a renamed row is what it added to the row. -/
theorem gathered_relabel (p : Problem ℝ users items) (s : State ℝ users items k)
    (rowOf : Observation ℝ users items → Fin n) (τ : Equiv.Perm (Fin n))
    (hrow : ∀ o, rowOf (o.relabel π ρ) = τ (rowOf o)) (i : Fin n) (j : Fin k) :
    gathered (p.relabel π ρ) (s.relabel π ρ σ) rowOf (τ i) (σ j) = gathered p s rowOf i j := by
  have hratings : ratingsOf rowOf (τ i) (p.relabel π ρ).train
      = (ratingsOf rowOf i p.train).map (Observation.relabel π ρ) := by
    show List.filter _ (p.train.map (Observation.relabel π ρ)) = _
    rw [List.filter_map]
    congr 1
    apply List.filter_congr
    intro o _
    simp only [Function.comp_apply, hrow, τ.apply_eq_iff_eq]
    rfl
  unfold gathered
  rw [hratings, List.map_map]
  congr 1
  apply List.map_congr_left
  intro o _
  show max o.value 1 * responsibility (s.relabel π ρ σ) (π o.user) (ρ o.item) (σ j) = _
  rw [responsibility_relabel]

namespace Rows

/-! ## The phases -/

/-- **Counting goes along** with other numbers. -/
theorem count_relabel (p : Problem ℝ users items) (s : State ℝ users items k) :
    count (p.relabel π ρ) (s.relabel π ρ σ) = (count p s).relabel π ρ σ := by
  have husers : (count (p.relabel π ρ) (s.relabel π ρ σ)).users.counted
      = Table.relabel π σ (count p s).users.counted := by
    apply Table.eq_relabel
    intro u j
    rw [count_users_counted, count_users_counted,
      gathered_relabel π ρ σ p s Observation.user π (fun _ => rfl) u j]
    congr 1
    exact Table.relabel_apply π σ s.users.counted u j
  have hitems : (count (p.relabel π ρ) (s.relabel π ρ σ)).items.counted
      = Table.relabel ρ σ (count p s).items.counted := by
    apply Table.eq_relabel
    intro i j
    rw [count_items_counted, count_items_counted,
      gathered_relabel π ρ σ p s Observation.item ρ (fun _ => rfl) i j]
    congr 1
    exact Table.relabel_apply ρ σ s.items.counted i j
  show State.mk
    { (s.relabel π ρ σ).users with
      counted := (count (p.relabel π ρ) (s.relabel π ρ σ)).users.counted }
    { (s.relabel π ρ σ).items with
      counted := (count (p.relabel π ρ) (s.relabel π ρ σ)).items.counted } = _
  rw [husers, hitems]
  rfl

/-- **Renewing a side goes along** with other numbers on either side. -/
theorem renew_relabel (prior : SidePrior ℝ) (π : Equiv.Perm (Fin n)) (ρ : Equiv.Perm (Fin m))
    (own : Factor ℝ n k) (other : Factor ℝ m k) :
    renew prior (own.relabel π σ) (other.relabel ρ σ) = (renew prior own other).relabel π σ := by
  have hrate : ∀ i j, (renew prior (own.relabel π σ) (other.relabel ρ σ)).rate[π i][σ j]
      = (renew prior own other).rate[i][j] := by
    intro i j
    rw [renew_rate, renew_rate, ← Equiv.sum_comp ρ]
    unfold Factor.relabel
    simp only [Table.relabel_apply, Row.relabel_apply]
  have hactivity : ∀ i, (renew prior (own.relabel π σ) (other.relabel ρ σ)).activityRate[π i]
      = (renew prior own other).activityRate[i] := by
    intro i
    rw [renew_activityRate, renew_activityRate, ← Equiv.sum_comp σ]
    simp only [hrate]
    unfold Factor.relabel
    simp only [Table.relabel_apply]
  exact Factor.eq_of_arrays rfl (Table.eq_relabel hrate) rfl (Row.eq_relabel hactivity)
    (Table.constant_relabel π σ prior.shape)

/-- Sums over all places stay the same, so that renewing can be done before or after. -/
theorem renewUsers_relabel (p : Problem ℝ users items) (s : State ℝ users items k) :
    renewUsers (p.relabel π ρ) (s.relabel π ρ σ) = (renewUsers p s).relabel π ρ σ :=
  congrArg (State.mk · (s.relabel π ρ σ).items) (renew_relabel σ p.userPrior π ρ s.users s.items)

theorem renewItems_relabel (p : Problem ℝ users items) (s : State ℝ users items k) :
    renewItems (p.relabel π ρ) (s.relabel π ρ σ) = (renewItems p s).relabel π ρ σ :=
  congrArg (State.mk (s.relabel π ρ σ).users) (renew_relabel σ p.itemPrior ρ π s.items s.users)

/-- The final activity shapes are the same for all rows. -/
theorem fixActivity_relabel (p : Problem ℝ users items) (s : State ℝ users items k) :
    fixActivity (p.relabel π ρ) (s.relabel π ρ σ) = (fixActivity p s).relabel π ρ σ := by
  have hconstant : ∀ {n : Nat} (τ : Equiv.Perm (Fin n)) (b : ℝ),
      (Vector.ofFn fun _ => b) = Row.relabel τ (Vector.ofFn fun _ => b) := fun τ b =>
    Row.eq_relabel fun i => by rw [Row.getElem_ofFn, Row.getElem_ofFn]
  have husers : (fixActivity (p.relabel π ρ) (s.relabel π ρ σ)).users
      = ((fixActivity p s).relabel π ρ σ).users :=
    Factor.eq_of_arrays rfl rfl (hconstant π _) rfl rfl
  have hitems : (fixActivity (p.relabel π ρ) (s.relabel π ρ σ)).items
      = ((fixActivity p s).relabel π ρ σ).items :=
    Factor.eq_of_arrays rfl rfl (hconstant ρ _) rfl rfl
  show State.mk (fixActivity (p.relabel π ρ) (s.relabel π ρ σ)).users
    (fixActivity (p.relabel π ρ) (s.relabel π ρ σ)).items = _
  rw [husers, hitems]

/-! ## The likelihood -/

theorem mean_relabel (π : Equiv.Perm (Fin n)) (f : Factor ℝ n k) (i : Fin n) (j : Fin k) :
    (f.relabel π σ).mean (π i) (σ j) = f.mean i j := by
  unfold Factor.mean Factor.relabel
  rw [Table.relabel_apply, Table.relabel_apply]

theorem pairRate_relabel (s : State ℝ users items k) (u : Fin users) (i : Fin items) :
    pairRate (s.relabel π ρ σ) (π u) (ρ i) = pairRate s u i := by
  unfold pairRate State.relabel
  rw [Scalar.real_total, Scalar.real_total, ← Equiv.sum_comp σ]
  simp only [mean_relabel]

/-- **The likelihood does not see numbers.** -/
theorem averageLogLikelihood_relabel (p : Problem ℝ users items) (s : State ℝ users items k) :
    averageLogLikelihood (p.relabel π ρ) (s.relabel π ρ σ) = averageLogLikelihood p s := by
  have hterms : (p.relabel π ρ).validation.map (fun o =>
      logLikelihood p.hits o.value (pairRate (s.relabel π ρ σ) o.user o.item))
      = p.validation.map fun o => logLikelihood p.hits o.value (pairRate s o.user o.item) := by
    show (p.validation.map (Observation.relabel π ρ)).map _ = _
    rw [List.map_map]
    apply List.map_congr_left
    intro o _
    show logLikelihood p.hits o.value (pairRate (s.relabel π ρ σ) (π o.user) (ρ o.item)) = _
    rw [pairRate_relabel]
  have hlength : (p.relabel π ρ).validation.length = p.validation.length := List.length_map _
  unfold averageLogLikelihood
  rw [hlength, ← hterms]
  rfl

end Rows

/-! ## Any sequence of phases -/

namespace Engine

/-- One phase goes along, with either backend. -/
theorem perform_relabel (b : Backend) (p : Problem ℝ users items) (x : Phase)
    (s : State ℝ users items k) :
    (b.engine (p.relabel π ρ)).perform x (s.relabel π ρ σ)
      = ((b.engine p).perform x s).relabel π ρ σ := by
  have hrows : (Backend.rows.engine (p.relabel π ρ)).perform x (s.relabel π ρ σ)
      = ((Backend.rows.engine p).perform x s).relabel π ρ σ := by
    cases x with
    | count => exact Rows.count_relabel π ρ σ p s
    | renewUsers => exact Rows.renewUsers_relabel π ρ σ p s
    | renewItems => exact Rows.renewItems_relabel π ρ σ p s
    | fixActivity => exact Rows.fixActivity_relabel π ρ σ p s
  cases b with
  | rows => exact hrows
  | columns =>
    rw [Backend.engine_columns_eq_rows, Backend.engine_columns_eq_rows]
    exact hrows

/-- **Any sequence of phases goes along.** -/
theorem performAll_relabel (b : Backend) (p : Problem ℝ users items) (phases : List Phase)
    (s : State ℝ users items k) :
    (b.engine (p.relabel π ρ)).performAll phases (s.relabel π ρ σ)
      = ((b.engine p).performAll phases s).relabel π ρ σ := by
  induction phases generalizing s with
  | nil => rfl
  | cons x rest ih =>
    show (b.engine (p.relabel π ρ)).performAll rest
      ((b.engine (p.relabel π ρ)).perform x (s.relabel π ρ σ)) = _
    rw [perform_relabel]
    exact ih _

theorem averageLogLikelihood_relabel (b : Backend) (p : Problem ℝ users items)
    (s : State ℝ users items k) :
    (b.engine (p.relabel π ρ)).averageLogLikelihood (s.relabel π ρ σ)
      = (b.engine p).averageLogLikelihood s := by
  cases b with
  | rows => exact Rows.averageLogLikelihood_relabel π ρ σ p s
  | columns =>
    rw [Backend.engine_columns_eq_rows, Backend.engine_columns_eq_rows]
    exact Rows.averageLogLikelihood_relabel π ρ σ p s

/-- Nor does what a check finds. -/
theorem check_relabel (b : Backend) (p : Problem ℝ users items) (phase : String)
    (s : State ℝ users items k) :
    (b.engine (p.relabel π ρ)).check phase (s.relabel π ρ σ) = (b.engine p).check phase s := by
  cases b with
  | rows => exact State.check_relabel π ρ σ phase s
  | columns =>
    rw [Backend.engine_columns_eq_rows, Backend.engine_columns_eq_rows]
    exact State.check_relabel π ρ σ phase s

end Engine

end PoissonFactor
