import PoissonFactor.Proofs.Outcome
import PoissonFactor.Training.Trainer

/-!
# What it takes to make a trainer

A split is accepted with its settings when the priors and settings pass their checks, both
lists of ratings lie inside the tables and neither is empty (`Trainer.accept_eq_ok_iff`).
A trainer is made of what was accepted when its priors and offsets have a reading
(`Checked.trainer_eq_ok_iff`).
-/

namespace PoissonFactor

variable {α : Type} {split : Split} {hyper : HyperSettings} {run : RunSettings}

/-! ## Locating ratings -/

namespace Split

/-- Locating ratings leaves their values as they are. -/
theorem values_of_locate {part : Part} {users items : Nat} {ratings : List Rating}
    {observations : List (Observation Float users items)}
    (h : locate part users items ratings = .ok observations) :
    observations.map Observation.value = ratings.map Rating.value := by
  induction ratings generalizing observations with
  | nil =>
    cases h
    rfl
  | cons r rest ih =>
    unfold locate at h
    by_cases hu : 0 ≤ r.user ∧ r.user < users
    · rw [dif_pos hu] at h
      by_cases hi : 0 ≤ r.item ∧ r.item < items
      · rw [dif_pos hi] at h
        obtain ⟨tail, htail, h⟩ := bind_eq_ok_iff.mp h
        cases h
        exact congrArg (r.value :: ·) (ih htail)
      · rw [dif_neg hi] at h
        cases h
    · rw [dif_neg hu] at h
      cases h

theorem ne_nil_of_locate {part : Part} {users items : Nat} {ratings : List Rating}
    {observations : List (Observation Float users items)}
    (h : locate part users items ratings = .ok observations) (hratings : ratings ≠ []) :
    observations ≠ [] := by
  rintro rfl
  exact hratings (List.map_eq_nil_iff.mp (values_of_locate h).symm)

end Split

/-! ## Checking, and reading -/

/-- What is accepted has passed every check, and is the parts that were given. -/
theorem Trainer.accept_eq_ok_iff {c : Checked} :
    accept split hyper run = .ok c ↔
      ∃ h, hyper.check = .ok h ∧ ∃ r, run.check = .ok r
        ∧ ∃ train, Split.locate .train split.users.size split.items.size split.train = .ok train
        ∧ ∃ validation,
            Split.locate .validation split.users.size split.items.size split.validation
              = .ok validation
        ∧ train ≠ [] ∧ validation ≠ []
        ∧ c = { split, hyper := h, run := r, train, validation } := by
  unfold accept
  simp only [bind_eq_ok_iff]
  constructor
  · rintro ⟨h, hh, r, hr, train, htrain, validation, hvalidation, ht⟩
    refine ⟨h, hh, r, hr, train, htrain, validation, hvalidation, ?_⟩
    by_cases htrain₀ : train.isEmpty = true
    · rw [if_pos htrain₀] at ht
      cases ht
    by_cases hvalidation₀ : validation.isEmpty = true
    · rw [if_neg htrain₀, if_pos hvalidation₀] at ht
      cases ht
    rw [if_neg htrain₀, if_neg hvalidation₀] at ht
    cases ht
    exact ⟨mt List.isEmpty_iff.mpr htrain₀, mt List.isEmpty_iff.mpr hvalidation₀, rfl⟩
  · rintro ⟨h, hh, r, hr, train, htrain, validation, hvalidation, htrain₀, hvalidation₀, rfl⟩
    refine ⟨h, hh, r, hr, train, htrain, validation, hvalidation, ?_⟩
    rw [if_neg (mt List.isEmpty_iff.mp htrain₀), if_neg (mt List.isEmpty_iff.mp hvalidation₀)]
    rfl

/-- A trainer is assembled of checked parts when the priors and offsets have a reading. -/
theorem Checked.trainer_eq_ok_iff {c : Checked} {A : Arithmetic α} {rule : StoppingRule α}
    {t : Trainer α} :
    c.trainer A rule = .ok t ↔
      ∃ prior, c.hyper.priors.mapM (fun _ n => A.read n) = .ok prior
        ∧ ∃ offsetShape, A.read c.run.offsetShape = .ok offsetShape
        ∧ ∃ offsetRate, A.read c.run.offsetRate = .ok offsetRate
        ∧ t = c.assemble A.ofDouble rule prior offsetShape offsetRate := by
  unfold trainer
  simp only [bind_eq_ok_iff]
  constructor
  · rintro ⟨prior, hprior, offsetShape, hshape, offsetRate, hrate, ht⟩
    cases ht
    exact ⟨prior, hprior, offsetShape, hshape, offsetRate, hrate, rfl⟩
  · rintro ⟨prior, hprior, offsetShape, hshape, offsetRate, hrate, rfl⟩
    exact ⟨prior, hprior, offsetShape, hshape, offsetRate, hrate, rfl⟩

/-- A trainer over doubles is one of accepted parts. -/
theorem Trainer.make_eq_ok_iff {rule : StoppingRule Float} {t : Trainer Float} :
    make split hyper run rule = .ok t ↔
      ∃ c, accept split hyper run = .ok c ∧ c.trainer .doubles rule = .ok t :=
  bind_eq_ok_iff

/-- Doubles are read as they are. -/
theorem Observation.map_readBy_doubles {users items : Nat}
    (ratings : List (Observation Float users items)) :
    ratings.map (readBy Arithmetic.doubles.ofDouble) = ratings :=
  List.map_id ratings

end PoissonFactor
