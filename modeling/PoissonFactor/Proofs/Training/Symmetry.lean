import PoissonFactor.Proofs.Model.Relabel
import PoissonFactor.Proofs.Training.Refinement

/-!
# A fit under other numbers

Two loops may walk side by side: whatever one does to a state `s`, the other does to
`f s`, and both answer alike (`Loop.Follows`). Then one step of the first is one step
of the second, and so is a whole run, with the same count, history and ending:

> `Loop.Follows.run`: the run from `f s` is the run from `s`, with `f` of its state.

`Proofs/Model/Relabel` says that the phases go along with other numbers for users,
items and features, so the loop of the renamed problem follows the loop of the
problem. A start without offsets is moreover the same under all numbers of the
features, and numbering two features the other way round then shows that their
columns are equal. Main result:

> `Trainer.fit_symmetric`: a run from relabelled parameters is the relabelled run, and
> a fit without random offsets never tells one feature from another.
-/

namespace PoissonFactor

/-- The same progress with another state. -/
def Progress.map {σ τ α : Type} (f : σ → τ) (p : Progress σ α) : Progress τ α :=
  { p with state := f p.state }

/-- Renaming goes through what an iteration enters. -/
theorem Progress.map_enter {σ τ α : Type} (f : σ → τ) (p : Progress σ α) (s : σ) :
    (p.enter s).map f = (p.map f).enter (f s) := rfl

/-! ## Loops side by side -/

namespace Loop

section

variable {σ τ α : Type}

/-- What `l` does to a state, `l'` does to `f` of it, and `l'` answers as `l` does. -/
structure Follows (l' : Loop Id τ α) (f : σ → τ) (l : Loop Id σ α) : Prop where
  advance : ∀ s, l'.advance (f s) = f (l.advance s)
  settle : ∀ s, l'.settle (f s) = f (l.settle s)
  check : ∀ phase s, l'.check phase (f s) = l.check phase s
  value : ∀ s, l'.value (f s) = l.value s
  answer : ∀ count change, l'.answer count change = l.answer count change
  frequency : l'.frequency = l.frequency

variable {l' : Loop Id τ α} {f : σ → τ} {l : Loop Id σ α}

/-- One iteration of a renamed state is the renamed state of the iteration. -/
theorem Follows.nextState (h : l'.Follows f l) (before : Nat) (s : σ) :
    l'.nextState before (f s) = f (l.nextState before s) := by
  unfold Loop.nextState finish
  rw [h.advance]
  by_cases hb : before = 0
  · rw [if_pos hb, if_pos hb, h.settle]
  · rw [if_neg hb, if_neg hb]

variable [Scalar α]

/-- A completed iteration of the one is a completed iteration of the other. -/
theorem Follows.iterated (h : l'.Follows f l) (p : Progress σ α) :
    l'.iterated (p.map f) = (l.iterated p).map f := by
  have hnext : l'.nextState (p.map f).begun (p.map f).state = f (l.nextState p.begun p.state) :=
    h.nextState p.begun p.state
  unfold Loop.iterated
  rw [hnext]
  dsimp only
  rw [h.value, h.frequency]
  by_cases hm : (p.begun + 1) % l.frequency = 0
  · rw [if_pos hm, if_pos (show ((p.map f).begun + 1) % l.frequency = 0 from hm)]
    rfl
  · rw [if_neg hm, if_neg (show ¬ ((p.map f).begun + 1) % l.frequency = 0 from hm)]
    rfl

/-- The renamed training goes on where the other does. -/
theorem Follows.goesOn (h : l'.Follows f l) {p : Progress σ α} (hp : l.GoesOn p) :
    l'.GoesOn (p.map f) where
  asked := (h.answer p.begun p.change).trans hp.asked
  checked := by
    show l'.check (phaseName p.begun) (l'.advance (f p.state)) = .ok ()
    rw [h.advance, h.check]
    exact hp.checked
  finite hm := by
    show Scalar.isFinite (l'.value (l'.nextState p.begun (f p.state))) = true
    rw [h.frequency] at hm
    rw [h.nextState, h.value]
    exact hp.finite hm

/-- It ends where the other does, in the same way. -/
theorem Follows.endsAs (h : l'.Follows f l) {p q : Progress σ α} {e : Ending}
    (hend : l.EndsAs p q e) : l'.EndsAs (p.map f) (q.map f) e := by
  have hadvance : l'.advance (p.map f).state = f (l.advance p.state) := h.advance p.state
  have hnext : l'.nextState (p.map f).begun (p.map f).state = f (l.nextState p.begun p.state) :=
    h.nextState p.begun p.state
  cases hend with
  | told ha => exact .told ((h.answer _ _).trans ha)
  | ruleFailed ha => exact .ruleFailed ((h.answer _ _).trans ha)
  | checkFailed ha hc =>
    rw [Progress.map_enter, ← hadvance]
    refine .checkFailed ((h.answer _ _).trans ha) ?_
    rw [hadvance, h.check]
    exact hc
  | notFinite ha hc hm hv =>
    rw [Progress.map_enter, ← hnext]
    refine .notFinite ((h.answer _ _).trans ha) ?_ ?_ ?_
    · rw [hadvance, h.check]
      exact hc
    · rw [h.frequency]
      exact hm
    · rw [hnext, h.value]
      exact hv

/-- So are any number of them. -/
theorem Follows.iterate (h : l'.Follows f l) (n : Nat) (s : σ) (c : Nat) :
    l'.iterated^[n] (begin (f s) c) = (l.iterated^[n] (begin s c)).map f := by
  have hsemiconj : Function.Semiconj (Progress.map f) l.iterated l'.iterated := fun p =>
    (h.iterated p).symm
  exact (hsemiconj.iterate_right n (begin s c)).symm

/-- **A run of the one is a run of the other.** Either both go on forever, or both end behind the
same iteration and in the same way. -/
theorem Follows.run (h : l'.Follows f l) (s : σ) (c : Nat) :
    l'.run (f s) c = ((l.run s c).1.map f, (l.run s c).2) := by
  rcases run_cases l s c with ⟨hrun, hall⟩ | ⟨n, q, e, hrun, hgo, hend⟩
  · have hall' : ∀ n, l'.GoesOn (l'.iterated^[n] (begin (f s) c)) := by
      intro n
      rw [h.iterate]
      exact h.goesOn (hall n)
    rw [hrun]
    -- Nothing stops the first run either, so the same case is left of its own.
    rcases run_cases l' (f s) c with ⟨hrun', -⟩ | ⟨n, q, e, -, -, hend⟩
    · exact hrun'
    · exact absurd (hall' n) (not_goesOn_of_endsAs hend)
  · rw [hrun]
    refine run_of_endsAs (n := n) (fun i hi => ?_) ?_
    · rw [h.iterate]
      exact h.goesOn (hgo i hi)
    · rw [h.iterate]
      exact h.endsAs hend

end

end Loop

/-! ## A start without offsets -/

section

variable {users items n k : Nat}

theorem Problem.relabel_refl {β : Type} (p : Problem β users items) :
    p.relabel (Equiv.refl _) (Equiv.refl _) = p := by
  have hnames : Observation.relabel (β := β) (Equiv.refl (Fin users)) (Equiv.refl (Fin items))
      = id := rfl
  unfold Problem.relabel
  rw [hnames, List.map_id, List.map_id]

/-- The columns of a side's two tables are equal to one another. -/
structure Factor.Uniform (f : Factor ℝ n k) : Prop where
  shape : ∀ (i : Fin n) (j j' : Fin k), f.shape[i][j] = f.shape[i][j']
  rate : ∀ (i : Fin n) (j j' : Fin k), f.rate[i][j] = f.rate[i][j']

/-- A table that is the same under all numbers of its columns has equal columns. -/
theorem Table.eq_of_relabel {t : Table ℝ n k}
    (h : ∀ σ : Equiv.Perm (Fin k), Table.relabel (Equiv.refl _) σ t = t) (i : Fin n)
    (j j' : Fin k) : t[i][j] = t[i][j'] := by
  -- Give the two columns each other's number.
  have hswap := Table.relabel_apply (Equiv.refl (Fin n)) (Equiv.swap j j') t i j
  rw [h, Equiv.swap_apply_left] at hswap
  exact hswap.symm

/-- What stays the same however features are labelled has equal columns. -/
theorem Factor.uniform_of_relabel {f : Factor ℝ n k}
    (h : ∀ σ : Equiv.Perm (Fin k), f.relabel (Equiv.refl _) σ = f) : f.Uniform where
  shape := Table.eq_of_relabel fun σ => congrArg Factor.shape (h σ)
  rate := Table.eq_of_relabel fun σ => congrArg Factor.rate (h σ)

variable [SpecialFunctions]

/-- Without offsets all features of a row start alike. -/
theorem Factor.start_relabel (prior : SidePrior ℝ) (draw : Nat → ℝ) (base : Nat)
    (σ : Equiv.Perm (Fin k)) :
    (Factor.start prior 0 0 draw base n k).relabel (Equiv.refl _) σ
      = Factor.start prior 0 0 draw base n k := by
  have hplain : ∀ (a : ℝ) (place : Fin n → Fin k → Nat),
      (Table.ofFn fun i j => a + 0 * draw (place i j) : Table ℝ n k) = Table.constant a := by
    intro a place
    unfold Table.constant
    simp only [zero_mul, add_zero]
  have hrow : ∀ row : Vector ℝ n, Row.relabel (Equiv.refl _) row = row := fun row =>
    (Row.eq_relabel fun _ => rfl).symm
  unfold Factor.start Factor.relabel
  simp only [hplain, hrow, ← Table.constant_relabel]

/-- Without offsets a start has no draw in it, and so all features are alike. -/
theorem State.start_relabel {p : Problem ℝ users items} (hshape : p.offsetShape = 0)
    (hrate : p.offsetRate = 0) (draw : Nat → ℝ) (σ : Equiv.Perm (Fin k)) :
    (State.start p draw k).relabel (Equiv.refl _) (Equiv.refl _) σ = State.start p draw k := by
  unfold State.start State.relabel
  rw [hshape, hrate, Factor.start_relabel, Factor.start_relabel]

end

namespace Trainer

section

variable [SpecialFunctions]

/-- The same trainer with the ratings of both lists renamed. -/
abbrev relabel (t : Trainer ℝ) (π : Equiv.Perm (Fin t.userIndex.size))
    (ρ : Equiv.Perm (Fin t.itemIndex.size)) : Trainer ℝ :=
  { t with problem := t.problem.relabel π ρ }

/-- The loop of the renamed trainer follows that of the trainer. -/
theorem loop_follows (t : Trainer ℝ) (b : Backend) (within : ℝ → Number → Except Failure Bool)
    (π : Equiv.Perm (Fin t.userIndex.size)) (ρ : Equiv.Perm (Fin t.itemIndex.size))
    (σ : Equiv.Perm (Fin t.features)) :
    ((t.relabel π ρ).loop b within).Follows (State.relabel π ρ σ) (t.loop b within) where
  advance s := Engine.performAll_relabel π ρ σ b t.problem [.count, .renewUsers, .renewItems] s
  settle s := Engine.perform_relabel π ρ σ b t.problem .fixActivity s
  check phase s := Engine.check_relabel π ρ σ b t.problem phase s
  value s := Engine.averageLogLikelihood_relabel π ρ σ b t.problem s
  answer _ _ := rfl
  frequency := rfl

/-- Without offsets the phases of a fit keep all features of a row alike. -/
theorem reached_relabel {t : Trainer ℝ} (hshape : t.problem.offsetShape = 0)
    (hrate : t.problem.offsetRate = 0) (b : Backend) (draw : Nat → ℝ) (phases : List Phase)
    (σ : Equiv.Perm (Fin t.features)) :
    (t.reached b draw phases).relabel (Equiv.refl _) (Equiv.refl _) σ
      = t.reached b draw phases := by
  have h := Engine.performAll_relabel (Equiv.refl _) (Equiv.refl _) σ b t.problem phases
    (.start t.problem draw t.features)
  rw [Problem.relabel_refl, State.start_relabel hshape hrate] at h
  exact h.symm

/-- **A fit under other numbers.** Give users, items and features other numbers, in the parameters
and in both lists of ratings. Every phase goes along and the likelihood stays what it is; so after
any number of iterations all is as it was but for the state, which has the new numbers, and a run
ends behind the same iteration, in the same way, with the same history. A fit that draws no offsets
thus has equal columns for all features, before its first iteration and behind every one. -/
theorem fit_symmetric (t : Trainer ℝ) (b : Backend) (within : ℝ → Number → Except Failure Bool) :
    (∀ (π : Equiv.Perm (Fin t.userIndex.size)) (ρ : Equiv.Perm (Fin t.itemIndex.size))
        (σ : Equiv.Perm (Fin t.features)),
      let f : t.Parameters → t.Parameters := State.relabel π ρ σ
      let e : Engine ℝ t.userIndex.size t.itemIndex.size t.features := b.engine t.problem
      let e' : Engine ℝ t.userIndex.size t.itemIndex.size t.features :=
        b.engine (t.problem.relabel π ρ)
      let l := t.loop b within
      let l' := (t.relabel π ρ).loop b within
      (∀ (x : Phase) (s : t.Parameters), e'.perform x (f s) = f (e.perform x s))
        ∧ (∀ s : t.Parameters, e'.averageLogLikelihood (f s) = e.averageLogLikelihood s)
        ∧ (∀ (s : t.Parameters) (c n : Nat),
          l'.iterated^[n] (Loop.begin (f s) c) = (l.iterated^[n] (Loop.begin s c)).map f)
        ∧ ∀ (s : t.Parameters) (c : Nat),
          l'.run (f s) c = ((l.run s c).1.map f, (l.run s c).2))
      ∧ (t.problem.offsetShape = 0 → t.problem.offsetRate = 0 →
        ∀ (draw : Nat → ℝ) (c n : Nat) (q : Progress t.Parameters ℝ),
          t.Completes b within draw c n q → q.state.users.Uniform ∧ q.state.items.Uniform) := by
  constructor
  · intro π ρ σ
    have hfollows := t.loop_follows b within π ρ σ
    exact ⟨Engine.perform_relabel π ρ σ b t.problem,
      Engine.averageLogLikelihood_relabel π ρ σ b t.problem,
      fun s c n => hfollows.iterate n s c, hfollows.run⟩
  · intro hshape hrate draw c n q h
    have hsame := reached_relabel hshape hrate b draw (fitPhases n)
    rw [h.state]
    exact ⟨Factor.uniform_of_relabel fun σ => congrArg State.users (hsame σ),
      Factor.uniform_of_relabel fun σ => congrArg State.items (hsame σ)⟩

end

theorem fit_symmetric_sample :
    letI : SpecialFunctions := .gamma
    sample.problem.offsetShape = 0 ∧ sample.problem.offsetRate = 0
      ∧ ∃ q, sample.Completes .rows (fun _ _ => .ok false) (fun _ => 1 / 2) 0 1 q
        ∧ q.state.users.Uniform ∧ q.state.items.Uniform := by
  let _ : SpecialFunctions := .gamma
  have hdraw : ∀ i, 0 ≤ (fun _ : Nat => (1 / 2 : ℝ)) i := fun _ => by norm_num
  obtain ⟨q, hq⟩ := completes_one sample_proper (fun _ _ => .ok false) hdraw (fun _ => rfl) 0
  exact ⟨rfl, rfl, q, hq, (fit_symmetric sample .rows _).2 rfl rfl _ 0 1 q hq⟩

end Trainer

end PoissonFactor
