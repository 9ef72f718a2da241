import PoissonFactor.Proofs.Ratings.LeastSize
import PoissonFactor.Proofs.Training.Faults
import PoissonFactor.Proofs.Training.RowNumbers

/-!
# What the checks of a trainer are worth

The checks behind which a trainer is made refuse exactly what cannot be trained on, and nothing
that passes them looks outside a table:

> `Trainer.admission`: which settings and splits are refused and for what; that the ratings of a
> trainer have their rows in every table, in whatever state; and which sizes a split has that
> came without.
-/

namespace PoissonFactor

namespace Split

/-- The check of the rows passes when all of them lie inside the tables. -/
theorem check_eq_ok_iff {s : Split} :
    s.check = .ok () ↔ ∀ r ∈ s.train ++ s.validation,
      (0 ≤ r.user ∧ r.user < s.users.size) ∧ 0 ≤ r.item ∧ r.item < s.items.size := by
  have hcheck : FirstOf (s.train.flatMap (ratingFault .train s.users.size s.items.size)
      ++ s.validation.flatMap (ratingFault .validation s.users.size s.items.size)) s.check :=
    (firstOf_locate _ _ _ _).bind fun _ _ => (firstOf_locate _ _ _ _).bind_ok fun _ _ => ⟨(), rfl⟩
  have hok : s.check = .ok () ↔ ∃ a, s.check = .ok a := ⟨fun h => ⟨_, h⟩, fun ⟨_, h⟩ => h⟩
  rw [hok, ← hcheck.eq_nil_iff]
  simp only [List.append_eq_nil_iff, List.flatMap_eq_nil_iff, ratingFault_eq_nil_iff,
    List.forall_mem_append]

end Split

namespace Trainer

variable {split : Split} {hyper : HyperSettings} {run : RunSettings} {rule : StoppingRule Float}

/-- There are faults when one of the things looked at is not as it should be. -/
theorem faults_ne_nil_iff :
    faults split hyper run ≠ [] ↔
      (∃ e ∈ hyper.priors.named, e.2.isAboveZero = false)
        ∨ (¬ ∃ k, hyper.featureCount = .int k ∧ 1 ≤ k)
        ∨ (¬ ∃ f, run.frequency = .int f ∧ 1 ≤ f)
        ∨ (¬ ∃ seed, run.seed = .int seed)
        ∨ (run.offsetShape.isBelowZero = true ∨ run.offsetRate.isBelowZero = true)
        ∨ (∃ r ∈ split.train ++ split.validation,
            ¬ ((0 ≤ r.user ∧ r.user < split.users.size) ∧ 0 ≤ r.item ∧ r.item < split.items.size))
        ∨ split.train = [] ∨ split.validation = [] := by
  unfold faults
  rw [ne_eq, List.append_eq_nil_iff, List.append_eq_nil_iff, HyperSettings.faults_eq_nil_iff,
    RunSettings.faults_eq_nil_iff, Split.faults_eq_nil_iff]
  simp only [not_and_or, not_forall, exists_prop, Bool.not_eq_true, Bool.not_eq_false, ne_eq,
    not_not, or_assoc]

/-- What is refused is refused for a fault of the settings or the ratings, and it is refused just
when there are faults. -/
theorem refused_iff (hhyper : hyper.IsNumeric) (hrun : run.IsNumeric) :
    (∃ cause, accept split hyper run = .error cause ∧ cause.family = .configuration)
      ↔ faults split hyper run ≠ [] := by
  have hfirst : FirstOf (faults split hyper run) (accept split hyper run) :=
    firstOf_accept hhyper hrun
  constructor
  · rintro ⟨cause, haccept, -⟩ hnil
    obtain ⟨c, hc⟩ := hfirst.passes hnil
    cases hc.symm.trans haccept
  · intro hne
    obtain ⟨cause, rest, hfaults⟩ := List.exists_cons_of_ne_nil hne
    refine ⟨cause, hfirst.stops cause (by rw [hfaults]; rfl), ?_⟩
    exact family_faults (hfaults ▸ List.mem_cons_self)

/-- What is refused makes no trainer. -/
theorem make_eq_error_of_accept {cause : Failure} (h : accept split hyper run = .error cause)
    (rule : StoppingRule Float) : make split hyper run rule = .error cause := by
  unfold make
  rw [h]
  rfl

/-- The tables of a trainer have the rows of all its ratings. -/
theorem phases_by_number {t : Trainer Float} (ht : make split hyper run rule = .ok t)
    {address : Addressing} (haddress : address.FindsRows) (p : t.Parameters) :
    Rows.countBy address split.train p = .ok ((Backend.rows.engine t.problem).count p)
      ∧ Rows.averageLogLikelihoodBy address t.problem.hits split.validation p
        = .ok ((Backend.rows.engine t.problem).averageLogLikelihood p) := by
  obtain ⟨c, hc, ht⟩ := make_eq_ok_iff.mp ht
  obtain ⟨h, -, r, -, train, htrain, validation, hvalidation, -, -, rfl⟩ :=
    accept_eq_ok_iff.mp hc
  obtain ⟨prior, -, offsetShape, -, offsetRate, -, rfl⟩ := Checked.trainer_eq_ok_iff.mp ht
  let c : Checked := { split, hyper := h, run := r, train, validation }
  let made := c.assemble Arithmetic.doubles.ofDouble rule prior offsetShape offsetRate
  -- Doubles are read as they are, so the ratings of the trainer are those that were located.
  have hnumbered (located : List (Observation Float split.users.size split.items.size)) :
      (located.map (Observation.readBy Arithmetic.doubles.ofDouble)).map Observation.numbered
        = located.map Observation.numbered :=
    congrArg (List.map Observation.numbered) (Observation.map_readBy_doubles located)
  have htrained : made.problem.train.map Observation.numbered = split.train :=
    (hnumbered train).trans (Split.numbered_of_locate htrain).symm
  have hheld : made.problem.validation.map Observation.numbered = split.validation :=
    (hnumbered validation).trans (Split.numbered_of_locate hvalidation).symm
  rw [← htrained, ← hheld]
  exact ⟨Rows.countBy_eq haddress made.problem p,
    Rows.averageLogLikelihoodBy_eq haddress made.problem p⟩

/-- **What the checks are worth.** A split is refused with its settings exactly when a prior is not
above zero, the number of features or the frequency is no integer above zero, the seed is no
integer, an offset lies below zero, a rating lies outside the indexes, or a part is empty; it is
refused for the first of these, and then no trainer is made. Otherwise it is accepted, and it makes
a trainer if its numbers have a double. In a trainer, counting and evaluating find every row by its
number, as it stands or with negative numbers counted from the end, whatever the state that other
actions have left behind. And a split that came without sizes has the least that lie above its row
numbers, so that only a row number below zero is outside. -/
theorem admission :
    (∀ split hyper run, hyper.IsNumeric → run.IsNumeric →
      ((∃ cause, accept split hyper run = .error cause ∧ cause.family = .configuration) ↔
        (∃ e ∈ hyper.priors.named, e.2.isAboveZero = false)
          ∨ (¬ ∃ k, hyper.featureCount = .int k ∧ 1 ≤ k)
          ∨ (¬ ∃ f, run.frequency = .int f ∧ 1 ≤ f)
          ∨ (¬ ∃ seed, run.seed = .int seed)
          ∨ (run.offsetShape.isBelowZero = true ∨ run.offsetRate.isBelowZero = true)
          ∨ (∃ r ∈ split.train ++ split.validation,
              ¬ ((0 ≤ r.user ∧ r.user < split.users.size)
                ∧ 0 ≤ r.item ∧ r.item < split.items.size))
          ∨ split.train = [] ∨ split.validation = [])
        ∧ (∀ cause, (faults split hyper run).head? = some cause →
          accept split hyper run = .error cause
            ∧ ∀ rule, make split hyper run rule = .error cause)
        ∧ (faults split hyper run = [] → (∃ c, accept split hyper run = .ok c)
          ∧ (rangeFaults hyper run = [] → ∀ rule, ∃ t, make split hyper run rule = .ok t)))
      ∧ (∀ split hyper run rule t, make split hyper run rule = .ok t →
        t.userIndex = split.users ∧ t.itemIndex = split.items
          ∧ ∀ address, address = .plain ∨ address = .wrapping → ∀ p : t.Parameters,
            Rows.countBy address split.train p = .ok ((Backend.rows.engine t.problem).count p)
              ∧ Rows.averageLogLikelihoodBy address t.problem.hits split.validation p
                = .ok ((Backend.rows.engine t.problem).averageLogLikelihood p))
      ∧ (∀ train validation : List Rating,
        ∃ s, Split.ofTriples (train.map Rating.triple) (validation.map Rating.triple) none none
            = .ok s
          ∧ s.train = train ∧ s.validation = validation)
      ∧ ∀ train validation s, Split.ofTriples train validation none none = .ok s →
        IsLeast {n : Nat | ∀ r ∈ s.train ++ s.validation, r.user < n} s.users.size
          ∧ IsLeast {n : Nat | ∀ r ∈ s.train ++ s.validation, r.item < n} s.items.size
          ∧ (s.check = .ok () ↔ ∀ r ∈ s.train ++ s.validation, 0 ≤ r.user ∧ 0 ≤ r.item) := by
  refine ⟨fun split hyper run hhyper hrun => ⟨?_, ?_, ?_⟩, ?_, Split.exists_ofTriples, ?_⟩
  · exact (refused_iff hhyper hrun).trans faults_ne_nil_iff
  · intro cause hcause
    have haccept := (firstOf_accept hhyper hrun).stops cause hcause
    exact ⟨haccept, make_eq_error_of_accept haccept⟩
  · intro hnil
    obtain ⟨c, hc⟩ := (firstOf_accept hhyper hrun).passes hnil
    refine ⟨⟨c, hc⟩, fun hrange rule => ?_⟩
    have hmade : FirstOf (rangeFaults hyper run) (c.trainer .doubles rule) :=
      Checked.firstOf_trainer hc
    obtain ⟨t, ht⟩ := hmade.passes hrange
    exact ⟨t, make_eq_ok_iff.mpr ⟨c, hc, ht⟩⟩
  · intro split hyper run rule t ht
    obtain ⟨c, hc, hmade⟩ := make_eq_ok_iff.mp ht
    obtain ⟨h, -, r, -, train, -, validation, -, -, -, hchecked⟩ := accept_eq_ok_iff.mp hc
    obtain ⟨prior, -, offsetShape, -, offsetRate, -, hassemble⟩ :=
      Checked.trainer_eq_ok_iff.mp hmade
    have hsplit : c.split = split := by rw [hchecked]
    refine ⟨by rw [hassemble, ← hsplit]; rfl, by rw [hassemble, ← hsplit]; rfl,
      fun address haddress p => ?_⟩
    have hfinds : address.FindsRows := by
      rcases haddress with rfl | rfl
      · exact Addressing.plain_findsRows
      · exact Addressing.wrapping_findsRows
    exact phases_by_number ht hfinds p
  · intro train validation s hs
    obtain ⟨husers, hitems⟩ := Split.sizes_of_ofTriples hs
    have hleastUser := Split.isLeast_leastSize Rating.user (s.train ++ s.validation)
    have hleastItem := Split.isLeast_leastSize Rating.item (s.train ++ s.validation)
    rw [Split.check_eq_ok_iff, husers, hitems, KeyIndex.size_dense, KeyIndex.size_dense]
    refine ⟨hleastUser, hleastItem, forall₂_congr fun r hr => ?_⟩
    rw [and_iff_left (hleastUser.1 r hr), and_iff_left (hleastItem.1 r hr)]

/-- Default settings with three ratings of two users and two items. One row number below zero is
refused by name; in its place a row makes a trainer, whose rows are all found. -/
theorem admission_sample :
    let train : List Rating := [⟨0, 1, 5⟩, ⟨1, 0, 0⟩]
    let sound : Split := ⟨train, [⟨1, 1, 2⟩], .dense 2, .dense 2⟩
    let broken : Split := ⟨train, [⟨1, -1, 2⟩], .dense 2, .dense 2⟩
    (∃ cause, accept broken {} {} = .error cause ∧ cause.family = .configuration)
      ∧ accept broken {} {}
        = .error (.entryOutOfRange .validation .item (Rating.shown ⟨1, -1, 2⟩))
      ∧ (∃ t, make sound {} {} .undecided = .ok t ∧ ∀ p : t.Parameters,
        Rows.countBy .plain train p = .ok ((Backend.rows.engine t.problem).count p))
      ∧ ∃ s, Split.ofTriples (train.map Rating.triple) [Rating.triple ⟨1, 1, 2⟩] none none = .ok s
        ∧ IsLeast {n : Nat | ∀ r ∈ s.train ++ s.validation, r.user < n} s.users.size := by
  intro train sound broken
  obtain ⟨hguards, hrows, hexists, hleast⟩ := admission
  have hhyper : ({} : HyperSettings).IsNumeric := by
    unfold HyperSettings.IsNumeric
    decide +kernel
  have hrun : ({} : RunSettings).IsNumeric := ⟨rfl, rfl⟩
  have hhyperFaults : ({} : HyperSettings).faults = [] :=
    HyperSettings.faults_eq_nil_iff.mpr ⟨by decide +kernel, 10, rfl, by decide⟩
  have hrunFaults : ({} : RunSettings).faults = [] :=
    RunSettings.faults_eq_nil_iff.mpr
      ⟨⟨10, rfl, by decide⟩, ⟨0, rfl⟩, by decide +kernel, by decide +kernel⟩
  have hsound : faults sound {} {} = [] := by
    unfold faults
    rw [hhyperFaults, hrunFaults]
    rfl
  have hbroken : (faults broken {} {}).head?
      = some (.entryOutOfRange .validation .item (Rating.shown ⟨1, -1, 2⟩)) := by
    unfold faults
    rw [hhyperFaults, hrunFaults]
    rfl
  have hrange : rangeFaults {} {} = [] := rfl
  obtain ⟨t, ht⟩ := ((hguards sound {} {} hhyper hrun).2.2 hsound).2 hrange .undecided
  obtain ⟨s, hs, -⟩ := hexists train [⟨1, 1, 2⟩]
  refine ⟨(hguards broken {} {} hhyper hrun).1.mpr ?_,
    ((hguards broken {} {} hhyper hrun).2.1 _ hbroken).1,
    ⟨t, ht, fun p => ((hrows sound {} {} _ t ht).2.2 _ (Or.inl rfl) p).1⟩,
    s, hs, (hleast _ _ s hs).1⟩
  have houtside : ∃ r ∈ broken.train ++ broken.validation,
      ¬ ((0 ≤ r.user ∧ r.user < broken.users.size) ∧ 0 ≤ r.item ∧ r.item < broken.items.size) :=
    ⟨⟨1, -1, 2⟩, by simp [broken, train], by decide⟩
  exact Or.inr (Or.inr (Or.inr (Or.inr (Or.inr (Or.inl houtside)))))

end Trainer

end PoissonFactor
