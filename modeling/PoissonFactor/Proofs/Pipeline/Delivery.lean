import PoissonFactor.Proofs.Pipeline.Reporting
import PoissonFactor.Proofs.Pipeline.Sound
import PoissonFactor.Proofs.Ratings.Rank
import PoissonFactor.Proofs.Training.Finish

/-!
# The whole way always leads to a model

From two rows on nothing can go wrong in exact arithmetic. The rows have a split with
ratings on both sides, a sound plan makes a proper trainer of it, and so the fit stays
among the positive numbers until its rule, which has a greatest number of iterations,
says stop. What comes out serves every identifier of the rows (`Factor.Serves`), also
one whose ratings are all held out or never counted.

> `Plan.delivers`: a sound plan gives a model for two rows or more, and fails before any
> training for fewer.
-/

namespace PoissonFactor

/-! ## Serving identifiers -/

/-- A lookup serves the identifiers of a list from the rows of a factor. Each of them has the row
numbered by its rank, whose means are above zero, and an identifier that is none of them is
unknown. -/
structure Factor.Serves {n k : Nat} (f : Factor ℝ n k) (ids : List Value)
    (vector : Value → Except Failure (Vector ℝ k)) : Prop where
  known : ∀ v ∈ ids, ∃ (i : Fin n) (w : Vector ℝ k), i.val = Value.rank ids v ∧ vector v = .ok w
    ∧ ∀ j : Fin k, w[j] = f.shape[i][j] / f.rate[i][j] ∧ 0 < w[j]
  unknown : ∀ v : Value, v.asKey = .ok v → (∀ w ∈ ids, w.same v = false) →
    vector v = .error (.unknownKey v.shown)

/-- Looking rows up in the index of a list serves its identifiers. -/
theorem Factor.serves_of_fromKeys [SpecialFunctions] {k : Nat} {ids : List Value}
    (hids : Value.Orderable ids) {index : KeyIndex} (hindex : KeyIndex.fromKeys ids = .ok index)
    {f : Factor ℝ index.size k} (hf : f.Positive) {vector : Value → Except Failure (Vector ℝ k)}
    (hok : ∀ v i, index.indexOf v = .ok i → vector v = .ok (Vector.ofFn fun j => f.mean i j))
    (herror : ∀ v cause, index.indexOf v = .error cause → vector v = .error cause) :
    f.Serves ids vector := by
  obtain ⟨index', hindex', hnumbers⟩ := KeyIndex.fromKeys_eq_ok hids
  cases hindex.symm.trans hindex'
  refine ⟨fun v hv => ?_, fun v hkey hnone => ?_⟩
  · obtain ⟨i, hi, hrow⟩ := hnumbers.row v hv
    have hrank : i.val = Value.rank ids v := KeyIndex.val_eq_rank hids hindex hv ((hrow i).mpr rfl)
    refine ⟨i, _, hrank, hok v i hi, fun j => ?_⟩
    have hmean : (Vector.ofFn fun j => f.mean i j)[j] = f.shape[i][j] / f.rate[i][j] :=
      Row.getElem_ofFn _ j
    exact ⟨hmean, hmean ▸ hf.mean_pos i j⟩
  · exact herror v _ (KeyIndex.indexOf_eq_error hkey fun w hw => hnone w (hnumbers.subset hw))

section

variable [SpecialFunctions]

/-- What a finished fit has to offer for the identifiers of the rows. -/
structure Trainer.Delivers (t : Trainer ℝ) (b : Backend) (draw : Nat → ℝ)
    (p : Progress t.Parameters ℝ) (userIds itemIds : List Value) (k : Nat) : Prop where
  finished : t.fitFrom b exactWithin draw 0 = .ok (p, .finished)
  users : (t.fitted b p).summary.users = (Value.members userIds).length
  items : (t.fitted b p).summary.items = (Value.members itemIds).length
  features : (t.fitted b p).summary.features = k
  userVector : p.state.users.Serves userIds (t.fitted b p).model.userVector
  itemVector : p.state.items.Serves itemIds (t.fitted b p).model.itemVector
  /-- Nothing that is done to a state on the way meets a number outside its domain … -/
  safe : ∀ phases, (t.reached b draw phases).Safe t.problem
  /-- … and neither does an evaluation. -/
  evaluable : ∀ phases, ∀ a ∈ Rows.likelihoodArguments t.problem (t.reached b draw phases), 0 < a

/-- A proper trainer whose indexes are those of the rows delivers. -/
theorem Trainer.exists_delivers {t : Trainer ℝ} (hp : t.problem.Proper) (hf : 1 ≤ t.frequency)
    (hk : 1 ≤ t.features) {draw : Nat → ℝ} (hdraw : ∀ i, 0 ≤ draw i) {m : Int}
    (hrule : t.rule.Caps exactWithin m) {userIds itemIds : List Value}
    (huserIds : Value.Orderable userIds) (hitemIds : Value.Orderable itemIds)
    (husers : KeyIndex.fromKeys userIds = .ok t.userIndex)
    (hitems : KeyIndex.fromKeys itemIds = .ok t.itemIndex) (hheld : t.problem.validation ≠ [])
    (hcounts : t.problem.hits = false → ∀ o ∈ t.problem.validation, 0 ≤ o.value) (b : Backend) :
    ∃ p, t.Delivers b draw p userIds itemIds t.features := by
  obtain ⟨p, hfit, -, hpos⟩ := t.exists_finished hp hf hdraw hrule b
  have hreached : ∀ phases, (t.reached b draw phases).Positive := by
    intro phases
    cases b with
    | rows => exact reached_positive hp hdraw phases
    | columns =>
      rw [reached_columns]
      exact reached_positive hp hdraw phases
  exact ⟨p, {
    finished := hfit
    users := KeyIndex.fromKeys_size huserIds husers
    items := KeyIndex.fromKeys_size hitemIds hitems
    features := rfl
    userVector := Factor.serves_of_fromKeys huserIds husers hpos.users
      (fun _ _ h => t.userVector_model b p.state h)
      (fun _ _ h => t.userVector_model_error b p.state h)
    itemVector := Factor.serves_of_fromKeys hitemIds hitems hpos.items
      (fun _ _ h => t.itemVector_model b p.state h)
      (fun _ _ h => t.itemVector_model_error b p.state h)
    safe := fun phases => State.safe_of_positive hp hk (hreached phases)
    evaluable := fun phases => State.likelihoodArguments_pos hk (hreached phases) hheld hcounts }⟩

end

/-! ## By the number of rows -/

section

variable {plan : Plan} {h : Hyper} {r : Run} {x : Float} {b : Backend} {n : Nat}
  {user item rating : Fin n → Value} {value : Fin n → Float}

/-- With two rows or more a sound plan gives a model, in exact arithmetic. -/
theorem Plan.Sound.exists_delivers [SpecialFunctions] (hplan : plan.Sound h r x b) (hn : 2 ≤ n)
    {draw : Int → Nat → Nat → ℝ} (hdraw : ∀ seed count i, 0 ≤ draw seed count i)
    (huser : Value.Orderable (List.ofFn user)) (hitem : Value.Orderable (List.ofFn item))
    (hrating : ∀ i, (rating i).toFloat = .ok (value i))
    (hcounts : r.hits = false → ∀ i, 0 ≤ realValue (value i)) :
    ∃ (t : Trainer ℝ) (p : Progress t.Parameters ℝ),
      (plan.trainerOver (.exact draw) (RatingRow.ofColumns user item rating)).outcome.1
          = .ok (t, b)
        ∧ t.Delivers b (draw t.seed t.draws) p (List.ofFn user) (List.ofFn item)
            h.featureCount := by
  have hn₀ : 0 < n := by omega
  obtain ⟨s, hs, husers, hitems, hcheck, hlength, hlength', hvalues⟩ :=
    Split.exists_holdOut hn₀ hplan.isShare hplan.isSeed huser hitem hrating
  have hheldOut : 1 ≤ Split.heldOutCount n x ∧ Split.heldOutCount n x < n := by
    unfold Split.heldOutCount
    omega
  have htrain : s.train ≠ [] := List.ne_nil_of_length_pos (by omega)
  have hvalidation : s.validation ≠ [] := List.ne_nil_of_length_pos (by omega)
  obtain ⟨hyper, run, train, validation, prior, offsetShape, offsetRate, hhyper, hrun, haccept,
    hheld, hlocated, htrainer⟩ := hplan.exists_trainer hcheck htrain hvalidation draw
  obtain ⟨_, hrule⟩ := hplan.rule
  obtain ⟨rule, hrule⟩ : ∃ rule : StoppingRule ℝ, StoppingRule.ofSection plan.stopping = .ok rule :=
    StoppingRule.exists_ofSection hrule
  obtain ⟨maximum, -, hcaps⟩ := StoppingRule.ofSection_caps (fun _ _ => ⟨_, rfl⟩) hrule
  let c : Checked := { split := s, hyper := h, run := r, train, validation }
  let t : Trainer ℝ := c.assemble realValue rule prior offsetShape offsetRate
  obtain ⟨hmake, hproper⟩ := htrainer rule
  -- A value that is held out is one of the rows, so it is no more negative than these.
  have hcounted : t.problem.hits = false → ∀ o ∈ t.problem.validation, 0 ≤ o.value := by
    intro hhits o ho
    obtain ⟨o', ho', rfl⟩ := List.mem_map.mp ho
    obtain ⟨i, hi⟩ := hvalues o'.value (hlocated ▸ List.mem_map_of_mem ho')
    show 0 ≤ realValue o'.value
    rw [hi]
    exact hcounts hhits i
  have hheld' : t.problem.validation ≠ [] := mt List.map_eq_nil_iff.mp hheld
  obtain ⟨p, hp⟩ := t.exists_delivers hproper r.one_le_frequency h.one_le_featureCount
    (hdraw t.seed t.draws) hcaps huser hitem husers hitems hheld' hcounted b
  refine ⟨t, p, ?_, hp⟩
  rw [← hplan.share] at hs
  exact (plan.trainerOver_eq_ok_iff _ _ [] _).mpr ⟨s, hs, hyper, hhyper, run, hrun, rule, hrule, b,
    hplan.backend, c, haccept, t, hmake, rfl⟩

/-- A single row is refused behind its split, in whatever arithmetic. -/
theorem Plan.Sound.evaluate_single {α : Type} [Scalar α] (hplan : plan.Sound h r x b) (hn : n = 1)
    (huser : Value.Orderable (List.ofFn user)) (hitem : Value.Orderable (List.ofFn item))
    (hrating : ∀ i, (rating i).toFloat = .ok (value i)) (A : Arithmetic α) :
    ∃ line, (plan.evaluateOver A (RatingRow.ofColumns user item rating)).outcome
      = (.error .emptyValidation, [line]) := by
  obtain ⟨s, hs, -, -, hcheck, hlength, hlength', -⟩ :=
    Split.exists_holdOut (by omega) hplan.isShare hplan.isSeed huser hitem hrating
  have hheldOut : Split.heldOutCount n x = 0 := by
    unfold Split.heldOutCount
    omega
  have htrain : s.train ≠ [] := List.ne_nil_of_length_pos (by omega)
  have hvalidation : s.validation = [] := List.eq_nil_of_length_eq_zero (by omega)
  obtain ⟨hyper, hhyper, hh⟩ := hplan.hyper
  obtain ⟨run, hrun, hr⟩ := hplan.run
  obtain ⟨rule, hrule⟩ := hplan.rule
  obtain ⟨rule', hrule'⟩ :
      ∃ rule' : StoppingRule α, StoppingRule.ofSection plan.stopping = .ok rule' :=
    StoppingRule.exists_ofSection hrule
  have haccept := Trainer.accept_eq_error_of_nil hh hr hcheck htrain hvalidation
  rw [← hplan.share] at hs
  -- Everything up to the trainer succeeds, so it is the trainer's checks that fail.
  let line := s.line (RatingRow.ofColumns user item rating).length
  have hrefused : (plan.trainerOver A (RatingRow.ofColumns user item rating)).after []
      = (.error .emptyValidation, [line]) := by
    unfold Plan.trainerOver
    rw [hs, hhyper, hrun, hrule', hplan.backend]
    show (Reporting.silent (Trainer.accept s hyper run) >>= fun c =>
      Reporting.silent (c.trainer A rule') >>= fun t => pure (t, b)).after [line] = _
    rw [haccept]
    rfl
  refine ⟨line, ?_⟩
  show (plan.evaluateOver A _).after [] = _
  unfold Plan.evaluateOver
  rw [Reporting.after_bind, hrefused]

/-- Without rows nothing is split. -/
theorem Plan.Sound.evaluate_nil {α : Type} [Scalar α] (hplan : plan.Sound h r x b) (hn : n = 0)
    (A : Arithmetic α) :
    (plan.evaluateOver A (RatingRow.ofColumns user item rating)).outcome
      = (.error .noRatings, []) := by
  have hrows : RatingRow.ofColumns user item rating = [] := List.ofFn_eq_nil_iff.mpr hn
  have hsplit : Split.holdOut [] plan.share plan.seed = .error .noRatings := by
    rw [hplan.share]
    exact Split.holdOut_nil hplan.isShare plan.seed
  rw [hrows]
  unfold Plan.evaluateOver Plan.trainerOver
  rw [hsplit]
  rfl

/-- **The whole way always leads to a model.** Take a plan whose settings are sound and rows with
comparable identifiers and real ratings, none of them negative if they are judged by their size.
In exact arithmetic, with draws from the unit interval, two rows or more lead to a trainer and a
finished fit, on either backend. Its model has the positive means of the final state for every
identifier of the rows, in the row numbered by the identifier's rank, calls every other one
unknown, and reports how many of them there are. A single row is refused by the checks of the
trainer, and no rows are refused by the split, so neither is trained on. -/
theorem Plan.delivers [SpecialFunctions] (hplan : plan.Sound h r x b)
    {draw : Int → Nat → Nat → ℝ}
    (hdraw : ∀ seed count i, 0 ≤ draw seed count i ∧ draw seed count i < 1)
    (huser : Value.Orderable (List.ofFn user)) (hitem : Value.Orderable (List.ofFn item))
    (hrating : ∀ i, (rating i).toFloat = .ok (value i) ∧ (Number.float (value i)).IsReal)
    (hcounts : r.hits = false → ∀ i, 0 ≤ realValue (value i)) :
    (2 ≤ n → ∃ (t : Trainer ℝ) (p : Progress t.Parameters ℝ),
        (plan.trainerOver (.exact draw) (RatingRow.ofColumns user item rating)).outcome.1
            = .ok (t, b)
          ∧ (plan.evaluateOver (.exact draw) (RatingRow.ofColumns user item rating)).outcome.1
              = .ok (t.fitted b p)
          ∧ t.Delivers b (draw t.seed t.draws) p (List.ofFn user) (List.ofFn item) h.featureCount)
      ∧ (n = 1 →
          Failure.emptyValidation.family = .configuration
            ∧ (∃ line, (plan.evaluateOver (.exact draw)
                  (RatingRow.ofColumns user item rating)).outcome
                = (.error .emptyValidation, [line]))
            ∧ ∃ line, (plan.evaluate (RatingRow.ofColumns user item rating)).outcome
                = (.error .emptyValidation, [line]))
      ∧ (n = 0 →
          Failure.noRatings.family = .value
            ∧ (plan.evaluateOver (.exact draw) (RatingRow.ofColumns user item rating)).outcome
                = (.error .noRatings, [])
            ∧ (plan.evaluate (RatingRow.ofColumns user item rating)).outcome
                = (.error .noRatings, [])) := by
  have hread : ∀ i, (rating i).toFloat = .ok (value i) := fun i => (hrating i).1
  have hdraw₀ : ∀ seed count i, 0 ≤ draw seed count i := fun seed count i => (hdraw seed count i).1
  refine ⟨fun hn => ?_, fun hn => ?_, fun hn => ?_⟩
  · obtain ⟨t, p, ht, hp⟩ := hplan.exists_delivers hn hdraw₀ huser hitem hread hcounts
    refine ⟨t, p, ht, ?_, hp⟩
    exact (plan.evaluateOver_eq_ok_iff _ _ _).mpr ⟨t, b, ht, p, hp.finished, rfl⟩
  · exact ⟨rfl, hplan.evaluate_single hn huser hitem hread _,
      hplan.evaluate_single hn huser hitem hread .doubles⟩
  · exact ⟨rfl, hplan.evaluate_nil hn _, hplan.evaluate_nil hn .doubles⟩

end

/-! ## Two rows -/

namespace Plan

/-- One iteration with the default priors, judged by the sizes of the ratings. -/
def counting : Plan where
  train := [("prob_prediction", .bool false)]
  stopping := [("max_iterations", .int 1)]
  share := .float 0.5

/-- The default priors and number of features. -/
def countingHyper : Hyper where
  priors := Priors.ofDoubles ⟨0.3, 0.3, 1, 0.3, 0.3, 1⟩
  featureCount := 10
  one_le_featureCount := by decide

/-- The default settings of a run, but for the hits. -/
def countingRun : Run where
  frequency := 10
  one_le_frequency := by decide
  seed := 0
  offsetShape := .float 0.1
  offsetRate := .float 0.1
  hits := false
  verbose := false

theorem sound_counting : counting.Sound countingHyper countingRun 0.5 .rows where
  hyper := by
    have hpos : ∀ (name : String), ∀ x ∈ [(0.3 : Float), 1],
        HyperSettings.checkPrior name (.float x) = .ok (.float x) := by
      have hlt : ∀ x ∈ [(0.3 : Float), 1], (Number.int 0).lt (.float x) = true := by
        decide +kernel
      exact fun name x hx => HyperSettings.checkPrior_float_iff.mpr ⟨rfl, hlt x hx⟩
    refine ⟨{}, rfl, bind_eq_ok_iff.mpr ⟨countingHyper.priors, ?_, rfl⟩⟩
    exact Priors.mapM_eq_ok_iff.mpr ⟨hpos _ _ (by simp), hpos _ _ (by simp), hpos _ _ (by simp),
      hpos _ _ (by simp), hpos _ _ (by simp), hpos _ _ (by simp)⟩
  run := by
    have hoffset : RunSettings.checkOffset (.float 0.1) = .ok (.float 0.1) :=
      RunSettings.checkOffset_float_iff.mpr ⟨rfl, by decide +kernel⟩
    refine ⟨{ hits := .bool false }, rfl, ?_⟩
    exact bind_eq_ok_iff.mpr ⟨_, hoffset, bind_eq_ok_iff.mpr ⟨_, hoffset, rfl⟩⟩
  rule := ⟨.iterations (.int 1), rfl⟩
  backend := rfl
  share := rfl
  isShare := by
    unfold Split.IsShare
    decide +kernel
  isSeed := Or.inl ⟨.int 42, rfl⟩
  priors := by decide +kernel
  offsetShape := by decide +kernel
  offsetRate := by decide +kernel

/-- Two users rate one item. -/
theorem delivers_two :
    letI : SpecialFunctions := .gamma
    let users : Fin 2 → Value := ![.str "b", .str "a"]
    let items : Fin 2 → Value := ![.int 2, .float 2]
    let ratings : Fin 2 → Value := ![.int 1, .str "0.5"]
    counting.Sound countingHyper countingRun 0.5 .rows
      ∧ Value.Orderable (List.ofFn users) ∧ Value.Orderable (List.ofFn items)
      ∧ (∀ i, (ratings i).toFloat = .ok ((![1, 0.5] : Fin 2 → Float) i)
          ∧ (Number.float ((![1, 0.5] : Fin 2 → Float) i)).IsReal)
      ∧ ∃ f, (counting.evaluateOver (.exact fun _ _ _ => 1 / 2)
            (RatingRow.ofColumns users items ratings)).outcome.1 = .ok f
          ∧ f.summary.users = 2 ∧ f.summary.items = 1 ∧ f.summary.features = 10
          ∧ ∃ w, f.model.userVector (.str "a") = .ok w := by
  let _ : SpecialFunctions := .gamma
  intro users items ratings
  have husers : Value.Orderable (List.ofFn users) := by decide +kernel
  have hitems : Value.Orderable (List.ofFn items) := by decide +kernel
  have hratings : ∀ i, (ratings i).toFloat = .ok ((![1, 0.5] : Fin 2 → Float) i)
      ∧ (Number.float ((![1, 0.5] : Fin 2 → Float) i)).IsReal := by
    decide +kernel
  have hcounts : ∀ i, 0 ≤ realValue ((![1, 0.5] : Fin 2 → Float) i) := by
    have hlt : ∀ i, (Number.float ((![1, 0.5] : Fin 2 → Float) i)).lt (.int 0) = false := by
      decide +kernel
    exact fun i => realValue_nonneg (hratings i).2 (hlt i)
  have hdraw : ∀ (seed : Int) (count i : Nat), (0 : ℝ) ≤ 1 / 2 ∧ (1 : ℝ) / 2 < 1 :=
    fun _ _ _ => by norm_num
  obtain ⟨t, p, -, heval, hp⟩ := (delivers sound_counting hdraw husers hitems hratings
    fun _ => hcounts).1 (le_refl 2)
  obtain ⟨-, w, -, hw, -⟩ := hp.userVector.known (.str "a") (List.mem_ofFn.mpr ⟨1, rfl⟩)
  exact ⟨sound_counting, husers, hitems, hratings, _, heval, hp.users.trans (by decide +kernel),
    hp.items.trans (by decide +kernel), hp.features, w, hw⟩

end Plan

end PoissonFactor
