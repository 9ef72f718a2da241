import PoissonFactor.Proofs.Training.Aggregation
import PoissonFactor.Training.Session

/-!
# What is held out never reaches the parameters

The held-out ratings are read by the evaluation alone, and an evaluation reaches the loop
only through the question whether to stop. So two trainers that train alike go through
the same parameters, for as long as both go on:

> `Trainer.TrainsAlike.cells_eq`: behind the same number of iterations all ten arrays are
> the same.

> `Trainer.begun_eq_of_blind`: under a rule that does not look at the change both also
> finish behind the same number of iterations.
-/

namespace PoissonFactor

variable {α : Type}

/-! ## Problems that train alike -/

/-- A rating without the sizes of the tables it belongs to. -/
def Observation.plain {users items : Nat} (o : Observation α users items) : Nat × Nat × α :=
  (o.user, o.item, o.value)

theorem Observation.plain_injective {users items : Nat} :
    Function.Injective (plain : Observation α users items → Nat × Nat × α) := by
  rintro ⟨u, i, v⟩ ⟨u', i', v'⟩ h
  simp only [plain, Prod.mk.injEq, Fin.val_inj] at h
  obtain ⟨rfl, rfl, rfl⟩ := h
  rfl

/-- Two problems agree in all that training reads: they may differ in what is held out. -/
structure Problem.TrainsAlike {users items users' items' : Nat} (p : Problem α users items)
    (p' : Problem α users' items') : Prop where
  users : users = users'
  items : items = items'
  userPrior : p.userPrior = p'.userPrior
  itemPrior : p.itemPrior = p'.itemPrior
  offsetShape : p.offsetShape = p'.offsetShape
  offsetRate : p.offsetRate = p'.offsetRate
  train : p.train.map Observation.plain = p'.train.map Observation.plain

namespace Problem.TrainsAlike

variable {users items : Nat}

/-- In tables of the same sizes only the held-out ratings and their likelihood are left open. -/
theorem eq_with {p p' : Problem α users items} (h : p.TrainsAlike p') :
    p' = { p with validation := p'.validation, hits := p'.hits } := by
  obtain ⟨-, -, huser, hitem, hshape, hrate, htrain⟩ := h
  have htrain := Observation.plain_injective.list_map htrain
  cases p
  cases p'
  simp_all

variable [Scalar α] {k : Nat}

/-- No phase reads what is held out. -/
theorem performAll_eq {p p' : Problem α users items} (h : p.TrainsAlike p') (b : Backend)
    (phases : List Phase) (s : State α users items k) :
    (b.engine p).performAll phases s = (b.engine p').performAll phases s := by
  have hperform (x : Phase) (s : State α users items k) :
      (b.engine p).perform x s = (b.engine p').perform x s := by
    rw [h.eq_with]
    cases b <;> cases x <;> rfl
  induction phases generalizing s with
  | nil => rfl
  | cons x rest ih =>
    show (b.engine p).performAll rest ((b.engine p).perform x s)
      = (b.engine p').performAll rest ((b.engine p').perform x s)
    rw [hperform, ih]

/-- The drawn start reads no ratings at all. -/
theorem start_eq {p p' : Problem α users items} (h : p.TrainsAlike p') (draw : Nat → α) :
    State.start p draw k = State.start p' draw k := by
  rw [h.eq_with]
  rfl

/-- The means read nothing but the state. -/
theorem means_eq {p p' : Problem α users items} (h : p.TrainsAlike p') (b : Backend)
    (s : State α users items k) : (b.engine p).means s = (b.engine p').means s := by
  rw [h.eq_with]
  cases b <;> rfl

/-- The same phases from the same draws reach the same arrays, and these have the same means. -/
theorem reached_eq {users' items' k' : Nat} {p : Problem α users items}
    {p' : Problem α users' items'} (h : p.TrainsAlike p') (hk : k = k') (b : Backend)
    (draw : Nat → α) (phases : List Phase) :
    let s := (b.engine p).performAll phases (.start p draw k)
    let s' := (b.engine p').performAll phases (.start p' draw k')
    (∀ a, s.cells a = s'.cells a)
      ∧ State.rows ((b.engine p).means s).1 = State.rows ((b.engine p').means s').1
      ∧ State.rows ((b.engine p).means s).2 = State.rows ((b.engine p').means s').2 := by
  -- The tables have different types until their sizes are the same numbers.
  have husers := h.users
  have hitems := h.items
  subst hk husers hitems
  rw [h.start_eq, h.performAll_eq]
  dsimp only
  rw [h.means_eq]
  exact ⟨fun _ => rfl, rfl, rfl⟩

end Problem.TrainsAlike

namespace Trainer

/-! ## Trainers that train alike -/

/-- Two trainers agree in the sizes of their tables and in all that training reads: they may differ
in their identifiers, in what is held out and how it is evaluated, in what they report and in when
they stop. -/
structure TrainsAlike (t t' : Trainer α) : Prop where
  features : t.features = t'.features
  problem : t.problem.TrainsAlike t'.problem

variable [Scalar α] {t t' : Trainer α} {b : Backend}
  {within within' : α → Number → Except Failure Bool} {draw : Nat → α} {c c' n : Nat}
  {q : Progress t.Parameters α} {q' : Progress t'.Parameters α}

namespace TrainsAlike

/-- **The parameters do not know what is held out.** -/
theorem cells_eq (h : t.TrainsAlike t') (hq : t.Completes b within draw c n q)
    (hq' : t'.Completes b within' draw c' n q') (a : ArrayName) :
    q.state.cells a = q'.state.cells a := by
  rw [hq.state, hq'.state]
  exact (h.problem.reached_eq h.features b draw (fitPhases n)).1 a

/-- With the same identifiers the same phases make the same model. -/
theorem model_reached_eq (h : t.TrainsAlike t') (husers : t.userIndex = t'.userIndex)
    (hitems : t.itemIndex = t'.itemIndex) (b : Backend) (draw : Nat → α) (phases : List Phase) :
    t.model b (t.reached b draw phases) = t'.model b (t'.reached b draw phases) := by
  obtain ⟨users, items, k, p, _, _, _, _⟩ := t
  obtain ⟨users', items', k', p', _, _, _, _⟩ := t'
  obtain ⟨hk, hp⟩ := h
  cases husers
  cases hitems
  cases hk
  have hmeans : (b.engine p).means ((b.engine p).performAll phases (.start p draw k))
      = (b.engine p').means ((b.engine p').performAll phases (.start p' draw k)) := by
    rw [hp.start_eq, hp.performAll_eq, hp.means_eq]
  exact congrArg (fun means => Model.mk users items k means.1 means.2) hmeans

end TrainsAlike

/-! ## Rules that do not look at the change -/

/-- Every iteration of a fit was asked for. -/
theorem Completes.asked (h : t.Completes b within draw c n q) {i : Nat} (hi : i < n) :
    ∃ change, t.rule.stops within i change = .ok false := by
  induction n generalizing q with
  | zero => exact absurd hi (Nat.not_lt_zero i)
  | succ n ih =>
    obtain ⟨p, hp, hgo, rfl⟩ := completes_succ_iff.mp h
    rcases Nat.lt_succ_iff_lt_or_eq.mp hi with hlt | rfl
    · exact ih hp hlt
    · have hasked := hgo.asked
      rw [hp.begun] at hasked
      exact ⟨p.change, hasked⟩

/-- A fit that is told to stop at once finishes where it started. -/
theorem fitFrom_of_told {s : t.Parameters} (hs : t.start? draw = .ok s)
    (htold : ∀ change, t.rule.stops within 0 change = .ok true) (c : Nat) :
    t.fitFrom b within draw c = .ok (Loop.begin s c, .finished) := by
  have hrun : (t.loop b within).run s c = (Loop.begin s c, .finished) :=
    Loop.run_of_endsAs (n := 0) (fun i hi => absurd hi (Nat.not_lt_zero i)) (.told (htold _))
  rw [fitFrom_eq, hs, ← hrun]
  rfl

/-- A fit finishes because it is told to. -/
theorem told_of_finished (h : t.fitFrom b within draw c = .ok (q, .finished)) :
    t.rule.stops within q.begun q.change = .ok true := by
  cases hs : t.start? draw with
  | error cause =>
    rw [fitFrom_eq, hs] at h
    cases h
  | ok s =>
    rcases fitFrom_cases b within c hs with ⟨hnever, -⟩ | ⟨n, p, q', e, hrun, hp, hend⟩
    · rw [hnever] at h
      cases h
    · rw [hrun] at h
      cases h
      cases hend with
      | told ha => exact ha

/-- Two fits under one rule that does not look at the change finish behind the same number of
iterations. -/
theorem begun_eq_of_blind {rule : StoppingRule α} (hrule : t.rule = rule) (hrule' : t'.rule = rule)
    (hblind : ∀ count change change',
      rule.stops within count change = rule.stops within count change')
    {draw' : Nat → α} (h : t.fitFrom b within draw c = .ok (q, .finished))
    (h' : t'.fitFrom b within draw' c' = .ok (q', .finished)) : q.begun = q'.begun := by
  have htold := told_of_finished h
  have htold' := told_of_finished h'
  rw [hrule] at htold
  rw [hrule'] at htold'
  rcases Nat.lt_trichotomy q.begun q'.begun with hlt | heq | hlt
  · obtain ⟨change, hasked⟩ := (completes_of_finished h').asked hlt
    rw [hrule', hblind _ change q.change, htold] at hasked
    cases hasked
  · exact heq
  · obtain ⟨change, hasked⟩ := (completes_of_finished h).asked hlt
    rw [hrule, hblind _ change q'.change, htold'] at hasked
    cases hasked

/-! ## Draws from a seed -/

/-- The draws of a trainer's seed as a stream. -/
def stream (t : Trainer Float) : Nat → Float :=
  fun i => t.drawn.getD i 0

/-- A fit draws from the stream of its seed. -/
theorem fit_eq (t : Trainer Float) (b : Backend) (c : Nat) :
    t.fit b c = t.fitFrom b changeWithin t.stream c :=
  rfl

/-- Trainers that train alike draw alike from one seed. -/
theorem TrainsAlike.stream_eq {t t' : Trainer Float} (h : t.TrainsAlike t')
    (hseed : t.seed = t'.seed) : t.stream = t'.stream := by
  have hdraws : t.draws = t'.draws := by
    unfold draws
    rw [h.problem.users, h.problem.items, h.features]
  unfold stream drawn
  rw [hseed, hdraws]

/-- Finished fits of the same length, from one seed, leave the same arrays and means. -/
theorem TrainsAlike.finished {t t' : Trainer Float} (h : t.TrainsAlike t')
    (hseed : t.seed = t'.seed) {b : Backend} {c c' : Nat} {q : Progress t.Parameters Float}
    {q' : Progress t'.Parameters Float} (hq : t.fit b c = .ok (q, .finished))
    (hq' : t'.fit b c' = .ok (q', .finished)) (hbegun : q.begun = q'.begun) :
    (∀ a, q.state.cells a = q'.state.cells a)
      ∧ State.rows (t.model b q.state).users = State.rows (t'.model b q'.state).users
      ∧ State.rows (t.model b q.state).items = State.rows (t'.model b q'.state).items
      ∧ (t.userIndex = t'.userIndex → t.itemIndex = t'.itemIndex →
          t.model b q.state = t'.model b q'.state) := by
  rw [fit_eq] at hq hq'
  have hstate : q.state = t.reached b t.stream (fitPhases q.begun) :=
    (completes_of_finished hq).state
  have hstate' : q'.state = t'.reached b t.stream (fitPhases q.begun) := by
    rw [hbegun, h.stream_eq hseed]
    exact (completes_of_finished hq').state
  have hreached := h.problem.reached_eq h.features b t.stream (fitPhases q.begun)
  rw [hstate, hstate']
  exact ⟨hreached.1, hreached.2.1, hreached.2.2,
    fun husers hitems => h.model_reached_eq husers hitems b t.stream _⟩

end Trainer

end PoissonFactor
