import PoissonFactor.Proofs.Pipeline.Reporting
import PoissonFactor.Proofs.Ratings.Holdout
import PoissonFactor.Proofs.Training.Isolation
import PoissonFactor.Proofs.Training.Make
import PoissonFactor.Proofs.Training.Refinement

/-!
# Held-out ratings do not leak

Rows that agree in their identifiers and, outside the positions held out, in their ratings
are split into the same training ratings. From there on two runs of the whole way differ
only in what their trainers hold out, so they fit the same model, if the rule lets both go
equally far.
-/

namespace PoissonFactor

/-! ## Two splits -/

/-- The identifiers of one side depend on nothing else that the rows hold. -/
theorem RatingRow.keys_congr {n : Nat} {rows rows' : Fin n → RatingRow} (name : String)
    {get : RatingRow → Option Value} (h : ∀ i, get (rows i) = get (rows' i)) :
    keys name get (List.ofFn rows) = keys name get (List.ofFn rows') := by
  have hmap : (List.ofFn rows).map get = (List.ofFn rows').map get := by
    rw [List.map_ofFn, List.map_ofFn]
    exact congrArg List.ofFn (funext h)
  rw [keys_eq_mapM, keys_eq_mapM, hmap]

/-- Rows with the same identifiers that agree wherever nothing is held out have the same split but
for what is held out. -/
theorem Split.holdOut_congr {n : Nat} {rows rows' : Fin n → RatingRow} {share seed : Value}
    {x : Float} {k : Nat} {s s' : Split} (hx : checkShare share = .ok x)
    (hk : shuffleSeed seed = .ok k) (huser : ∀ i, (rows i).user = (rows' i).user)
    (hitem : ∀ i, (rows i).item = (rows' i).item)
    (hrows : ∀ i, i ∉ heldOutAt k n x → rows i = rows' i)
    (hs : holdOut (List.ofFn rows) share seed = .ok s)
    (hs' : holdOut (List.ofFn rows') share seed = .ok s') :
    s' = { s with validation := s'.validation } := by
  rcases Nat.eq_zero_or_pos n with rfl | hn
  · rw [List.ofFn_zero] at hs
    unfold holdOut at hs
    rw [hx] at hs
    cases hs
  obtain ⟨y, l, code, hy, hl, husers, hitems, hcode, hpart⟩ := (holdOut_eq_ok_iff hn).mp hs
  obtain ⟨y', l', code', hy', hl', husers', hitems', hcode', hpart'⟩ :=
    (holdOut_eq_ok_iff hn).mp hs'
  cases hx.symm.trans hy
  cases hx.symm.trans hy'
  cases hk.symm.trans hl
  cases hk.symm.trans hl'
  rw [← RatingRow.keys_congr "user_id" huser, husers] at husers'
  rw [← RatingRow.keys_congr "item_id" hitem, hitems] at hitems'
  obtain ⟨train, validation, users, items⟩ := s
  obtain ⟨train', validation', users', items'⟩ := s'
  cases husers'
  cases hitems'
  have htrain : train' = train := by
    refine hpart'.train.trans (Eq.trans ?_ hpart.train.symm)
    refine List.map_congr_left fun i hi => ?_
    have hout : i ∉ heldOutAt k n x := by simpa using hi
    have hsame := hcode' i
    rw [← hrows i hout, hcode i] at hsame
    exact (Except.ok.inj hsame).symm
  rw [htrain]

/-! ## Two trainers -/

/-- Made from a split that holds out other ratings, a trainer is the same but for these. -/
theorem Checked.trainer_with_validation {α : Type} {A : Arithmetic α} {split : Split}
    {validation : List Rating} {hyper : HyperSettings} {run : RunSettings} {rule : StoppingRule α}
    {c c' : Checked} {t t' : Trainer α} (hc : Trainer.accept split hyper run = .ok c)
    (hc' : Trainer.accept { split with validation } hyper run = .ok c')
    (h : c.trainer A rule = .ok t) (h' : c'.trainer A rule = .ok t') :
    t.rule = rule ∧ ∃ located, t' = t.withRatings t.problem.train located := by
  obtain ⟨h₁, hh, r, hr, train, htrain, located, -, -, -, rfl⟩ := Trainer.accept_eq_ok_iff.mp hc
  obtain ⟨h₂, hh', r', hr', train', htrain', located', -, -, -, rfl⟩ :=
    Trainer.accept_eq_ok_iff.mp hc'
  obtain ⟨prior, hprior, shape, hshape, rate, hrate, rfl⟩ := trainer_eq_ok_iff.mp h
  obtain ⟨prior', hprior', shape', hshape', rate', hrate', rfl⟩ := trainer_eq_ok_iff.mp h'
  -- Whatever is not read from the held-out ratings is read twice from the same.
  cases hh.symm.trans hh'
  cases hr.symm.trans hr'
  cases htrain.symm.trans htrain'
  cases hprior.symm.trans hprior'
  cases hshape.symm.trans hshape'
  cases hrate.symm.trans hrate'
  exact ⟨rfl, _, rfl⟩

/-- Other held-out ratings leave a trainer training alike. -/
theorem Trainer.trainsAlike_withRatings {α : Type} (t : Trainer α)
    (validation : List (Observation α t.userIndex.size t.itemIndex.size)) :
    t.TrainsAlike (t.withRatings t.problem.train validation) where
  features := rfl
  problem := ⟨rfl, rfl, rfl, rfl, rfl, rfl, rfl⟩

/-- A section that gives a number of iterations and no threshold asks for that many iterations. -/
theorem StoppingRule.ofSection_eq_iterations {χ : Type} {s : Settings.Section} {m : Int}
    {rule : StoppingRule χ} (hthreshold : s.get "threshold" = .null)
    (hmaximum : Setting.integer? (s.get "max_iterations") = .ok (some m))
    (h : ofSection s = .ok rule) : rule = .iterations (.int m) := by
  unfold ofSection at h
  rw [hmaximum, hthreshold] at h
  have h : ofIterations (.int m) = .ok rule := h
  obtain ⟨n, hn, h⟩ := bind_eq_ok_iff.mp h
  cases hn
  split at h
  · cases h
  · cases h
    rfl

/-! ## Two runs -/

/-- **Held-out ratings do not leak.** Trainers that train alike go through the same parameters,
whatever each of them holds out, evaluates, reports and stops at. From one seed they draw alike,
and when their fits finish behind the same number of iterations they have the same arrays and
means, and the same model if their identifiers are the same. So when a plan only says how many
iterations to run, no rating at a position held out has a part in the model: rows that differ
there and nowhere else lead to the same model, if both runs give one. -/
theorem Plan.heldOut_isolated :
    (∀ {α : Type} [Scalar α] (t t' : Trainer α), t.TrainsAlike t' →
        ∀ b within within' draw c c' n q q', t.Completes b within draw c n q →
          t'.Completes b within' draw c' n q' → ∀ a, q.state.cells a = q'.state.cells a)
      ∧ (∀ t t' : Trainer Float, t.TrainsAlike t' → t.seed = t'.seed →
          t.stream = t'.stream
            ∧ ∀ b c c' q q', t.fit b c = .ok (q, .finished) → t'.fit b c' = .ok (q', .finished) →
              q.begun = q'.begun →
              (∀ a, q.state.cells a = q'.state.cells a)
                ∧ State.rows (t.model b q.state).users = State.rows (t'.model b q'.state).users
                ∧ State.rows (t.model b q.state).items = State.rows (t'.model b q'.state).items
                ∧ (t.userIndex = t'.userIndex → t.itemIndex = t'.itemIndex →
                    t.model b q.state = t'.model b q'.state))
      ∧ ∀ (plan : Plan) (m : Int) (x : Float) (k n : Nat) (rows rows' : Fin n → RatingRow)
          (f f' : Fitted Float),
          plan.stopping.get "threshold" = .null →
          Setting.integer? (plan.stopping.get "max_iterations") = .ok (some m) →
          Split.checkShare plan.share = .ok x → Split.shuffleSeed plan.seed = .ok k →
          (∀ i, (rows i).user = (rows' i).user ∧ (rows i).item = (rows' i).item) →
          (∀ i, i ∉ Split.heldOutAt k n x → rows i = rows' i) →
          (plan.evaluate (List.ofFn rows)).outcome.1 = .ok f →
          (plan.evaluate (List.ofFn rows')).outcome.1 = .ok f' → f.model = f'.model := by
  refine ⟨?_, fun t t' h hseed => ⟨h.stream_eq hseed, ?_⟩, ?_⟩
  · intro α _ t t' h b within within' draw c c' n q q' hq hq'
    exact h.cells_eq hq hq'
  · intro b c c' q q' hq hq' hbegun
    exact h.finished hseed hq hq' hbegun
  · intro plan m x k n rows rows' f f' hthreshold hmaximum hx hk hids hrows hf hf'
    obtain ⟨t, b, hmade, p, hp, rfl⟩ := (plan.evaluateOver_eq_ok_iff .doubles _ f).mp hf
    obtain ⟨t', b', hmade', p', hp', rfl⟩ := (plan.evaluateOver_eq_ok_iff .doubles _ f').mp hf'
    obtain ⟨split, hsplit, hyper, hhyper, run, hrun, rule, hrule, _, hb, c, hc, _, ht, hpair⟩ :=
      (plan.trainerOver_eq_ok_iff .doubles _ [] _).mp hmade
    cases hpair
    obtain ⟨split', hsplit', hyper', hhyper', run', hrun', rule', hrule', _, hb', c', hc', _, ht',
      hpair'⟩ := (plan.trainerOver_eq_ok_iff .doubles _ [] _).mp hmade'
    cases hpair'
    cases hhyper.symm.trans hhyper'
    cases hrun.symm.trans hrun'
    cases hrule.symm.trans hrule'
    cases hb.symm.trans hb'
    rw [Split.holdOut_congr hx hk (fun i => (hids i).1) (fun i => (hids i).2) hrows hsplit
      hsplit'] at hc'
    obtain ⟨htrule, validation, rfl⟩ := Checked.trainer_with_validation hc hc' ht ht'
    have halike := t.trainsAlike_withRatings validation
    have hrule := StoppingRule.ofSection_eq_iterations hthreshold hmaximum hrule
    have hbegun : p.begun = p'.begun :=
      Trainer.begun_eq_of_blind htrule htrule (by rw [hrule]; exact fun _ _ _ => rfl) hp hp'
    exact (halike.finished rfl hp hp' hbegun).2.2.2 rfl rfl

/-! ## Two ratings of one user -/

namespace Plan

/-- No iteration at all. -/
def still : Plan where
  stopping := [("max_iterations", .int 0)]
  share := .float 0.5

/-- One user rates one item twice. What is held out of the two ratings is worth `v`. -/
def twice (v : Float) : Fin 2 → RatingRow := fun i =>
  { user := some (.str "a")
    item := some (.str "x")
    rating := some (.float (if i ∈ Split.heldOutAt 42 2 0.5 then v else 1)) }

/-- The index of one name. -/
def single (name : String) : KeyIndex where
  keys := [.str name]
  distinct := List.pairwise_singleton _ _

/-- The split of the two ratings. -/
def twiceSplit (v : Float) : Split where
  train := [⟨0, 0, 1⟩]
  validation := [⟨0, 0, v⟩]
  users := single "a"
  items := single "x"

/-- Of two ratings one is held out. -/
theorem exists_heldOutAt_eq : ∃ i, Split.heldOutAt 42 2 0.5 = {i} := by
  rw [← Finset.card_eq_one, Split.card_heldOutAt 42 two_pos]
  unfold Split.heldOutCount
  omega

theorem isShare_half : Split.IsShare 0.5 := by
  unfold Split.IsShare
  decide +kernel

theorem twice_ne : twice 1 ≠ twice 5 := by
  intro h
  obtain ⟨i, hi⟩ := exists_heldOutAt_eq
  have hrow := congrArg RatingRow.rating (congrFun h i)
  unfold twice at hrow
  rw [hi, if_pos (Finset.mem_singleton_self i), if_pos (Finset.mem_singleton_self i)] at hrow
  injection hrow with hvalue
  injection hvalue with hone
  exact absurd hone (by decide +kernel)

/-- Of the two ratings, the one at the position that is held out goes to the validation part. -/
theorem holdOut_twice (v : Float) :
    Split.holdOut (List.ofFn (twice v)) still.share still.seed = .ok (twiceSplit v) := by
  obtain ⟨i, hi⟩ := exists_heldOutAt_eq
  refine (Split.holdOut_eq_ok_iff two_pos).mpr ⟨0.5, 42,
    fun j => ⟨0, 0, if j ∈ Split.heldOutAt 42 2 0.5 then v else 1⟩, ?_, rfl, ?_, ?_, ?_, ?_⟩
  · exact Split.checkShare_eq_ok isShare_half
  · have hkeys : RatingRow.keys "user_id" RatingRow.user (List.ofFn (twice v))
        = .ok (List.ofFn fun _ => .str "a") := RatingRow.keys_ofFn (fun _ => rfl) fun _ => rfl
    rw [hkeys]
    cbv
  · have hkeys : RatingRow.keys "item_id" RatingRow.item (List.ofFn (twice v))
        = .ok (List.ofFn fun _ => .str "x") := RatingRow.keys_ofFn (fun _ => rfl) fun _ => rfl
    rw [hkeys]
    cbv
  · intro j
    rfl
  · rw [hi]
    fin_cases i <;> exact ⟨rfl, rfl⟩

/-- Everything up to the start of the fit. -/
def twiceStart (v : Float) : Except Failure Unit := do
  let hyper ← HyperSettings.ofSection still.hpf
  let run ← RunSettings.ofSection still.train
  let rule ← StoppingRule.ofSection still.stopping
  let c ← Trainer.accept (twiceSplit v) hyper run
  let t ← c.trainer .doubles rule
  let _ ← t.start

/-- Both runs come to an end with a model. -/
theorem exists_evaluate_twice {v : Float} (hv : v ∈ [1, 5]) :
    ∃ f, (still.evaluate (List.ofFn (twice v))).outcome.1 = .ok f := by
  have hall : ∀ v ∈ [(1 : Float), 5], (twiceStart v).isOk = true := by decide +kernel
  have hstart : ∃ u, twiceStart v = .ok u := by
    have hok := hall v hv
    cases h : twiceStart v with
    | error cause =>
      rw [h] at hok
      cases hok
    | ok u => exact ⟨u, rfl⟩
  obtain ⟨u, h⟩ := hstart
  obtain ⟨hyper, hhyper, h⟩ := bind_eq_ok_iff.mp h
  obtain ⟨run, hrun, h⟩ := bind_eq_ok_iff.mp h
  obtain ⟨rule, hrule, h⟩ := bind_eq_ok_iff.mp h
  obtain ⟨c, hc, h⟩ := bind_eq_ok_iff.mp h
  obtain ⟨t, ht, h⟩ := bind_eq_ok_iff.mp h
  obtain ⟨s, hs, -⟩ := bind_eq_ok_iff.mp h
  have hiterations : rule = .iterations (.int 0) :=
    StoppingRule.ofSection_eq_iterations rfl rfl hrule
  have htrule : t.rule = rule := by
    obtain ⟨_, _, _, _, _, _, rfl⟩ := Checked.trainer_eq_ok_iff.mp ht
    rfl
  have hfit : t.fit .rows 0 = .ok (Loop.begin s 0, .finished) :=
    Trainer.fitFrom_of_told hs (fun _ => by rw [htrule, hiterations]; rfl) 0
  have hmade : (still.trainerOver .doubles (List.ofFn (twice v))).outcome.1 = .ok (t, .rows) :=
    (still.trainerOver_eq_ok_iff .doubles _ [] _).mpr ⟨_, holdOut_twice v, hyper, hhyper, run, hrun,
      rule, hrule, .rows, rfl, c, hc, t, ht, rfl⟩
  exact ⟨_, (still.evaluateOver_eq_ok_iff .doubles _ _).mpr ⟨t, .rows, hmade, _, hfit, rfl⟩⟩

end Plan

namespace Trainer

/-- The sample with other ratings held out, evaluated, reported and stopped in another way. -/
noncomputable def sampleHidden : Trainer ℝ :=
  { sample with
    problem := { sample.problem with validation := [sampleRating 7, sampleRating 0], hits := false }
    frequency := 5
    verbose := true
    rule := .iterations (.int 7) }

end Trainer

theorem Plan.heldOut_isolated_twice :
    letI : SpecialFunctions := .gamma
    Trainer.sample.TrainsAlike Trainer.sampleHidden
      ∧ (∃ q q',
          Trainer.sample.Completes .rows (fun _ _ => .ok false) (fun _ => 1 / 2) 0 1 q
          ∧ Trainer.sampleHidden.Completes .rows (fun _ _ => .ok true) (fun _ => 1 / 2) 0 1 q'
          ∧ ∀ a, q.state.cells a = q'.state.cells a)
      ∧ twice 1 ≠ twice 5
      ∧ ∃ f f', (still.evaluate (List.ofFn (twice 1))).outcome.1 = .ok f
          ∧ (still.evaluate (List.ofFn (twice 5))).outcome.1 = .ok f' ∧ f.model = f'.model := by
  let _ : SpecialFunctions := .gamma
  obtain ⟨hsame, -, hmodel⟩ := heldOut_isolated
  have hdraw : ∀ i, 0 ≤ (fun _ : Nat => (1 / 2 : ℝ)) i := fun _ => by norm_num
  have halike : Trainer.sample.TrainsAlike Trainer.sampleHidden :=
    ⟨rfl, rfl, rfl, rfl, rfl, rfl, rfl, rfl⟩
  have hproper : Trainer.sampleHidden.problem.Proper :=
    ⟨Trainer.sample_proper.userPrior, Trainer.sample_proper.itemPrior, le_refl 0, le_refl 0⟩
  obtain ⟨q, hq⟩ := Trainer.completes_one Trainer.sample_proper (fun _ _ => .ok false) hdraw
    (fun _ => rfl) 0
  obtain ⟨q', hq'⟩ := Trainer.completes_one hproper (fun _ _ => .ok true) hdraw (fun _ => rfl) 0
  have hcells : ∀ a, q.state.cells a = q'.state.cells a := hsame _ _ halike _ _ _ _ _ _ _ _ _ hq hq'
  obtain ⟨f, hf⟩ := exists_evaluate_twice (v := 1) (by simp)
  obtain ⟨f', hf'⟩ := exists_evaluate_twice (v := 5) (by simp)
  have hshare : Split.checkShare still.share = .ok 0.5 := Split.checkShare_eq_ok isShare_half
  have hrows : ∀ i, i ∉ Split.heldOutAt 42 2 0.5 → twice 1 i = twice 5 i := by
    intro i hi
    unfold twice
    rw [if_neg hi, if_neg hi]
  have hids : ∀ i, (twice 1 i).user = (twice 5 i).user ∧ (twice 1 i).item = (twice 5 i).item := by
    intro i
    unfold twice
    exact ⟨rfl, rfl⟩
  have heq := hmodel still 0 0.5 42 2 (twice 1) (twice 5) f f' rfl rfl hshare rfl hids hrows hf hf'
  exact ⟨halike, ⟨q, q', hq, hq', hcells⟩, twice_ne, f, f', hf, hf', heq⟩

end PoissonFactor
