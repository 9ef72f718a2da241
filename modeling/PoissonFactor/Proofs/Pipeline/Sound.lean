import PoissonFactor.Pipeline.Evaluate
import PoissonFactor.Proofs.Model.Positivity
import PoissonFactor.Proofs.Pipeline.Arithmetic
import PoissonFactor.Proofs.Ratings.Holdout
import PoissonFactor.Proofs.Training.Make
import PoissonFactor.Proofs.Training.Settings

/-!
# Sound plans

Rows with comparable identifiers and readable ratings have a split
(`Split.exists_holdOut`), with ratings on both sides if there are two rows or more. A
plan is sound (`Plan.Sound`) when its settings build, pass their checks and are real
numbers. What such a plan makes of a split depends on the held-out ratings only:

> `Plan.Sound.exists_trainer`: with some of them they are accepted together and make a trainer
> that is proper in exact arithmetic.

> `Trainer.accept_eq_error_of_nil`: without any they are refused.
-/

namespace PoissonFactor

/-! ## Splits of comparable rows -/

/-- Rows that lack nothing, by their identifiers and ratings. -/
def RatingRow.ofColumns {n : Nat} (user item rating : Fin n → Value) : List RatingRow :=
  List.ofFn fun i => ⟨some (user i), some (item i), some (rating i)⟩

namespace Split

/-- Rows with comparable identifiers and readable ratings have a split. Its indexes are those of
all identifiers, held out or not, and no held-out value is new. -/
theorem exists_holdOut {n : Nat} (hn : 0 < n) {x : Float} (hx : IsShare x) {seed : Value}
    (hseed : seed.IsSeed) {user item rating : Fin n → Value} {value : Fin n → Float}
    (huser : Value.Orderable (List.ofFn user)) (hitem : Value.Orderable (List.ofFn item))
    (hrating : ∀ i, (rating i).toFloat = .ok (value i)) :
    ∃ s, holdOut (RatingRow.ofColumns user item rating) (.float x) seed = .ok s
      ∧ KeyIndex.fromKeys (List.ofFn user) = .ok s.users
      ∧ KeyIndex.fromKeys (List.ofFn item) = .ok s.items
      ∧ s.check = .ok ()
      ∧ s.train.length = n - heldOutCount n x ∧ s.validation.length = heldOutCount n x
      ∧ ∀ v ∈ s.validation.map Rating.value, ∃ i, v = value i := by
  obtain ⟨k, hk⟩ := exists_shuffleSeed_eq_ok hseed
  obtain ⟨users, husers, hnumbered⟩ := KeyIndex.fromKeys_eq_ok huser
  obtain ⟨items, hitems, hnumbered'⟩ := KeyIndex.fromKeys_eq_ok hitem
  have hmem (key : Fin n → Value) (i : Fin n) : key i ∈ List.ofFn key := List.mem_ofFn.mpr ⟨i, rfl⟩
  have hcode : ∀ i, ∃ c, RatingRow.encode users items
        ⟨some (user i), some (item i), some (rating i)⟩ = .ok c
      ∧ c.StandsFor users items (user i) (item i) (value i) := fun i =>
    RatingRow.exists_encode_eq_ok hnumbered hnumbered' (hmem user i) (hmem item i) (hrating i)
  choose code hcode hstands using hcode
  -- With an index for each side and a rating for each row there is a split.
  have hpart := isPartition_heldOut k n x code users items
  have hcard := card_heldOutAt k hn x
  refine ⟨_, (holdOut_eq_ok_iff hn).mpr ⟨x, k, code, checkShare_eq_ok hx, hk, ?_, ?_, hcode, hpart⟩,
    husers, hitems, hpart.check_eq_ok hstands, ?_, ?_, ?_⟩
  · refine bind_eq_ok_iff.mpr ⟨_, RatingRow.keys_ofFn (fun _ => rfl) ?_, husers⟩
    exact fun i => huser.asKey_eq (hmem user i)
  · refine bind_eq_ok_iff.mpr ⟨_, RatingRow.keys_ofFn (fun _ => rfl) ?_, hitems⟩
    exact fun i => hitem.asKey_eq (hmem item i)
  · rw [hpart.length_train, hcard]
  · rw [hpart.length_validation, hcard]
  · intro v hv
    rw [hpart.validation, List.map_map] at hv
    obtain ⟨i, -, rfl⟩ := List.mem_map.mp hv
    exact ⟨i, (hstands i).value⟩

/-- No rows have no split. -/
theorem holdOut_nil {x : Float} (hx : IsShare x) (seed : Value) :
    holdOut [] (.float x) seed = .error .noRatings := by
  unfold holdOut
  rw [checkShare_eq_ok hx]
  rfl

end Split

/-! ## Sound plans -/

/-- The settings of a plan build and pass their checks, and their numbers are real. The checked
priors and settings, the share and the backend are what they come to. -/
structure Plan.Sound (plan : Plan) (h : Hyper) (r : Run) (x : Float) (b : Backend) : Prop where
  hyper : ∃ s, HyperSettings.ofSection plan.hpf = .ok s ∧ s.check = .ok h
  run : ∃ s, RunSettings.ofSection plan.train = .ok s ∧ s.check = .ok r
  rule : ∃ rule : StoppingRule Float, StoppingRule.ofSection plan.stopping = .ok rule
  backend : Backend.ofName plan.backend = .ok b
  share : plan.share = .float x
  isShare : Split.IsShare x
  isSeed : plan.seed.IsSeed
  priors : ∀ e ∈ h.priors.named, e.2.IsReal
  offsetShape : r.offsetShape.IsReal
  offsetRate : r.offsetRate.IsReal

/-- The trainer of checked parts is proper when these are positive. -/
theorem Checked.proper_assemble {c : Checked} {prior : Priors ℝ} {offsetShape offsetRate : ℝ}
    (hprior : ∀ e ∈ prior.named, 0 < e.2) (hshape : 0 ≤ offsetShape) (hrate : 0 ≤ offsetRate)
    (rule : StoppingRule ℝ) :
    (c.assemble realValue rule prior offsetShape offsetRate).problem.Proper := by
  simp only [Priors.named, List.forall_mem_cons] at hprior
  obtain ⟨ha, ha', hb', hc, hc', hd', -⟩ := hprior
  exact ⟨⟨ha, ha', hb'⟩, ⟨hc, hc', hd'⟩, hshape, hrate⟩

/-- A sound plan makes a proper trainer of a split that has ratings on both sides. -/
theorem Plan.Sound.exists_trainer {plan : Plan} {h : Hyper} {r : Run} {x : Float} {b : Backend}
    (hplan : plan.Sound h r x b) {s : Split} (hcheck : s.check = .ok ()) (htrain : s.train ≠ [])
    (hvalidation : s.validation ≠ []) (draw : Int → Nat → Nat → ℝ) :
    ∃ hyper run train validation prior offsetShape offsetRate,
      HyperSettings.ofSection plan.hpf = .ok hyper ∧ RunSettings.ofSection plan.train = .ok run
        ∧ Trainer.accept s hyper run = .ok { split := s, hyper := h, run := r, train, validation }
        ∧ validation ≠ []
        ∧ validation.map Observation.value = s.validation.map Rating.value
        ∧ ∀ rule,
          let c : Checked := { split := s, hyper := h, run := r, train, validation }
          c.trainer (.exact draw) rule
              = .ok (c.assemble realValue rule prior offsetShape offsetRate)
            ∧ (c.assemble realValue rule prior offsetShape offsetRate).problem.Proper := by
  obtain ⟨hyper, hhyper, hh⟩ := hplan.hyper
  obtain ⟨run, hrun, hr⟩ := hplan.run
  obtain ⟨prior, hprior, hpos⟩ := HyperSettings.priors_of_check hhyper hh
  obtain ⟨shape, rate, hshape, hrate, hshape₀, hrate₀⟩ := RunSettings.offsets_of_check hrun hr
  obtain ⟨train, hlocated, hcheck⟩ := bind_eq_ok_iff.mp hcheck
  obtain ⟨validation, hlocated', -⟩ := bind_eq_ok_iff.mp hcheck
  have htrain' := Split.ne_nil_of_locate hlocated htrain
  have hvalidation' := Split.ne_nil_of_locate hlocated' hvalidation
  -- The priors passed their check as doubles, and they are real, so they are positive reals.
  have hreal : ∀ e ∈ prior.named, 0 < realValue e.2 := by
    intro e he
    refine realValue_pos (hplan.priors (e.1, .float e.2) ?_) (hpos e he)
    rw [hprior]
    exact List.mem_map_of_mem (f := fun e => (e.1, Number.float e.2)) he
  have hreal' : ∀ e ∈ (prior.map realValue).named, 0 < e.2 := by
    intro e he
    rw [Priors.named_map] at he
    obtain ⟨e', he', rfl⟩ := List.mem_map.mp he
    exact hreal e' he'
  refine ⟨hyper, run, train, validation, prior.map realValue, realValue shape, realValue rate,
    hhyper, hrun, ?_, hvalidation', Split.values_of_locate hlocated', fun rule => ⟨?_, ?_⟩⟩
  · exact Trainer.accept_eq_ok_iff.mpr
      ⟨h, hh, r, hr, train, hlocated, validation, hlocated', htrain', hvalidation', rfl⟩
  · refine Checked.trainer_eq_ok_iff.mpr ⟨_, ?_, _, ?_, _, ?_, rfl⟩
    · rw [hprior]
      exact Priors.mapM_eq_ok_iff.mpr ⟨rfl, rfl, rfl, rfl, rfl, rfl⟩
    · rw [hshape]
      exact Arithmetic.read_exact draw shape
    · rw [hrate]
      exact Arithmetic.read_exact draw rate
  · refine Checked.proper_assemble hreal' ?_ ?_ rule
    · exact realValue_nonneg (hshape ▸ hplan.offsetShape) hshape₀
    · exact realValue_nonneg (hrate ▸ hplan.offsetRate) hrate₀

/-- Without held-out ratings nothing is accepted. -/
theorem Trainer.accept_eq_error_of_nil {s : Split} {hyper : HyperSettings} {run : RunSettings}
    {h : Hyper} {r : Run} (hh : hyper.check = .ok h) (hr : run.check = .ok r)
    (hcheck : s.check = .ok ()) (htrain : s.train ≠ []) (hvalidation : s.validation = []) :
    accept s hyper run = .error .emptyValidation := by
  obtain ⟨train, hlocated, -⟩ := bind_eq_ok_iff.mp hcheck
  have hnone : Split.locate .validation s.users.size s.items.size s.validation = .ok [] := by
    rw [hvalidation]
    rfl
  have htrain' : ¬ train.isEmpty = true :=
    mt List.isEmpty_iff.mp (Split.ne_nil_of_locate hlocated htrain)
  unfold accept
  rw [hh, hr]
  dsimp only [bind, Except.bind]
  rw [hlocated, hnone]
  dsimp only
  rw [if_neg htrain']
  rfl

end PoissonFactor
