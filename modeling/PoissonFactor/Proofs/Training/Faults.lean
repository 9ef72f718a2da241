import PoissonFactor.Proofs.Training.Make
import PoissonFactor.Proofs.Training.Settings
import PoissonFactor.Proofs.Value.Number

/-!
# What is refused, and what is named first

The checks behind which a trainer is made look for faults in a fixed order: the priors, the
number of features, the frequency, the seed, the offsets, the rows of every rating, and last
that neither part is empty. `Trainer.faults` lists all faults in that order. So what is refused
is said of a list:

> `Trainer.firstOf_accept`: a split and its settings are refused for the first fault of the list
> and accepted if there is none.

A fit then reads the priors and offsets as doubles, which an integer may be too large for
(`Trainer.rangeFaults`); that is a failure of the fit and no fault of the settings:

> `Checked.firstOf_trainer`: what was accepted fails to be read for the first of these.

The checks compare numbers with zero, so settings that are no numbers are a fault of another
kind (`HyperSettings.IsNumeric`, `RunSettings.IsNumeric`).
-/

namespace PoissonFactor

/-! ## Checks that stop at the first fault -/

section

variable {α β : Type}

/-- The computation fails with the first of the faults, or succeeds if there are none. -/
structure FirstOf (faults : List Failure) (x : Except Failure α) : Prop where
  stops : ∀ cause, faults.head? = some cause → x = .error cause
  passes : faults = [] → ∃ a, x = .ok a

/-- What succeeds has no fault. -/
theorem FirstOf.ok (a : α) : FirstOf [] (.ok a) :=
  ⟨fun _ h => (nomatch h), fun _ => ⟨a, rfl⟩⟩

/-- What fails has the first of its faults. -/
theorem FirstOf.error (cause : Failure) (rest : List Failure) :
    FirstOf (cause :: rest) (.error cause : Except Failure α) := by
  refine ⟨fun c h => ?_, fun h => nomatch h⟩
  cases h
  rfl

/-- It succeeds just when there are no faults. -/
theorem FirstOf.eq_nil_iff {fs : List Failure} {x : Except Failure α} (h : FirstOf fs x) :
    fs = [] ↔ ∃ a, x = .ok a := by
  refine ⟨h.passes, ?_⟩
  rintro ⟨a, rfl⟩
  cases fs with
  | nil => rfl
  | cons cause rest => cases h.stops cause rfl

/-- One check after the other stops at the first fault of either. -/
theorem FirstOf.bind {fs gs : List Failure} {x : Except Failure α} {f : α → Except Failure β}
    (hx : FirstOf fs x) (hf : ∀ a, x = .ok a → FirstOf gs (f a)) :
    FirstOf (fs ++ gs) (x >>= f) := by
  cases fs with
  | nil =>
    obtain ⟨a, ha⟩ := hx.passes rfl
    rw [ha]
    exact hf a ha
  | cons cause rest =>
    rw [hx.stops cause rfl]
    exact .error cause (rest ++ gs)

/-- What follows a check without faults of its own adds none. -/
theorem FirstOf.bind_ok {fs : List Failure} {x : Except Failure α} {f : α → Except Failure β}
    (hx : FirstOf fs x) (hf : ∀ a, x = .ok a → ∃ b, f a = .ok b) : FirstOf fs (x >>= f) := by
  rw [← List.append_nil fs]
  refine hx.bind fun a ha => ?_
  obtain ⟨b, hb⟩ := hf a ha
  rw [hb]
  exact .ok b

end

/-! ## Numbers above and below zero -/

namespace Value

/-- Is the value a number above zero? -/
def isAboveZero (v : Value) : Bool :=
  v.number?.any fun n => (Number.int 0).lt n

/-- Is the value a number below zero? -/
def isBelowZero (v : Value) : Bool :=
  v.number?.any fun n => n.lt (.int 0)

/-- Whatever can be compared with zero stands for a number. -/
theorem number_of_comparable {v : Value} {n : Number} (h : v.comparable = .ok n) :
    v.number? = some n := by
  unfold comparable at h
  split at h
  · cases h
    assumption
  · cases h

theorem integer_eq_some_iff {v : Value} {k : Int} : v.integer? = some k ↔ v = .int k := by
  cases v <;> simp [integer?]

end Value

/-! ## Priors and features -/

/-- What stops at the fault of a prior stops at the first of all priors. -/
theorem Priors.firstOf_mapM {α β : Type} {faults : String × α → List Failure}
    {f : String → α → Except Failure β} {p : Priors α}
    (h : ∀ e ∈ p.named, FirstOf (faults e) (f e.1 e.2)) :
    FirstOf (p.named.flatMap faults) (p.mapM f) := by
  unfold Priors.named at h ⊢
  simp only [List.forall_mem_cons] at h
  obtain ⟨ha, ha', hb', hc, hc', hd', -⟩ := h
  unfold Priors.mapM
  simp only [List.flatMap_cons, List.flatMap_nil]
  refine ha.bind fun _ _ => ha'.bind fun _ _ => hb'.bind fun _ _ => ?_
  exact hc.bind fun _ _ => hc'.bind fun _ _ => hd'.bind fun _ _ => .ok _

namespace HyperSettings

/-- The priors are numbers. -/
def IsNumeric (s : HyperSettings) : Prop :=
  ∀ e ∈ s.priors.named, e.2.isNumber = true

/-- The fault of a prior that is not above zero. -/
def priorFault (e : String × Value) : List Failure :=
  if e.2.isAboveZero then [] else [.priorNotPositive e.1 e.2.shown]

/-- The fault of a number of features that is no integer or too small. -/
def featureFault (v : Value) : List Failure :=
  match v.integer? with
  | none => [.featureCountNotInteger]
  | some k => if 1 ≤ k then [] else [.featureCountTooSmall k]

/-- The faults of the priors in order, and that of the number of features. -/
def faults (s : HyperSettings) : List Failure :=
  s.priors.named.flatMap priorFault ++ featureFault s.featureCount

/-- A prior that is a number has to be above zero. -/
theorem firstOf_checkPrior {name : String} {v : Value} (h : v.isNumber = true) :
    FirstOf (priorFault (name, v)) (checkPrior name v) := by
  obtain ⟨n, hn⟩ := Option.isSome_iff_exists.mp h
  unfold priorFault checkPrior Value.isAboveZero
  rw [Value.comparable_of_number hn, hn]
  dsimp only [bind, Except.bind, Option.any]
  by_cases hpos : (Number.int 0).lt n = true
  · rw [if_pos hpos, if_pos hpos]
    exact .ok n
  · rw [if_neg hpos, if_neg hpos]
    exact .error _ []

/-- The check of priors and features stops at their first fault. -/
theorem firstOf_check {s : HyperSettings} (h : s.IsNumeric) : FirstOf s.faults s.check := by
  refine (Priors.firstOf_mapM fun e he => firstOf_checkPrior (h e he)).bind fun priors _ => ?_
  unfold featureFault
  cases s.featureCount.integer? with
  | none => exact .error _ []
  | some k =>
    dsimp only
    by_cases hk : 1 ≤ k
    · rw [if_pos hk, dif_pos hk]
      exact .ok _
    · rw [if_neg hk, dif_neg hk]
      exact .error _ []

/-- A number of features has to be an integer, and at least one. -/
theorem featureFault_eq_nil_iff {v : Value} :
    featureFault v = [] ↔ ∃ k, v = .int k ∧ 1 ≤ k := by
  unfold featureFault
  cases h : v.integer? with
  | none =>
    constructor
    · intro hnil
      cases hnil
    · rintro ⟨k, rfl, -⟩
      cases h
  | some k =>
    rw [Value.integer_eq_some_iff] at h
    subst h
    by_cases hk : 1 ≤ k <;> simp [hk]

theorem faults_eq_nil_iff {s : HyperSettings} :
    s.faults = [] ↔ (∀ e ∈ s.priors.named, e.2.isAboveZero = true)
      ∧ ∃ k, s.featureCount = .int k ∧ 1 ≤ k := by
  unfold faults
  rw [List.append_eq_nil_iff, featureFault_eq_nil_iff, List.flatMap_eq_nil_iff]
  refine and_congr_left fun _ => forall₂_congr fun e _ => ?_
  unfold priorFault
  cases e.2.isAboveZero <;> simp

theorem family_faults {s : HyperSettings} {cause : Failure} (h : cause ∈ s.faults) :
    cause.family = .configuration := by
  rcases List.mem_append.mp h with h | h
  · obtain ⟨e, -, he⟩ := List.mem_flatMap.mp h
    unfold priorFault at he
    split at he
    · cases he
    · rw [List.mem_singleton.mp he]
      rfl
  · unfold featureFault at h
    split at h
    · rw [List.mem_singleton.mp h]
      rfl
    · split at h
      · cases h
      · rw [List.mem_singleton.mp h]
        rfl

end HyperSettings

/-! ## Settings of the run -/

namespace RunSettings

/-- The offsets are numbers. -/
def IsNumeric (s : RunSettings) : Prop :=
  s.offsetShape.isNumber = true ∧ s.offsetRate.isNumber = true

/-- The fault of a frequency that is no integer above zero. -/
def frequencyFault (v : Value) : List Failure :=
  if v.integer?.any fun f => decide (1 ≤ f) then [] else [.frequencyInvalid]

/-- The fault of a seed that is no integer. -/
def seedFault (v : Value) : List Failure :=
  if v.integer?.isSome then [] else [.seedNotInteger v.shown]

/-- The fault of an offset below zero. -/
def offsetFault (v : Value) : List Failure :=
  if v.isBelowZero then [.offsetsNegative] else []

/-- The faults of frequency, seed and offsets, in this order. -/
def faults (s : RunSettings) : List Failure :=
  frequencyFault s.frequency ++ (seedFault s.seed
    ++ (offsetFault s.offsetShape ++ offsetFault s.offsetRate))

/-- An offset that is a number must not be below zero. -/
theorem firstOf_checkOffset {v : Value} (h : v.isNumber = true) :
    FirstOf (offsetFault v) (checkOffset v) := by
  obtain ⟨n, hn⟩ := Option.isSome_iff_exists.mp h
  unfold offsetFault checkOffset Value.isBelowZero
  rw [Value.comparable_of_number hn, hn]
  dsimp only [bind, Except.bind, Option.any]
  by_cases hneg : n.lt (.int 0) = true
  · rw [if_pos hneg, if_pos hneg]
    exact .error _ []
  · rw [if_neg hneg, if_neg hneg]
    exact .ok n

/-- The check of the run's settings stops at their first fault. -/
theorem firstOf_check {s : RunSettings} (h : s.IsNumeric) : FirstOf s.faults s.check := by
  unfold faults check frequencyFault
  cases s.frequency.integer? with
  | none => exact .error _ _
  | some f =>
    dsimp only [Option.any]
    by_cases hf : 1 ≤ f
    · rw [dif_pos hf, if_pos (decide_eq_true hf), List.nil_append]
      unfold seedFault
      cases s.seed.integer? with
      | none => exact .error _ _
      | some seed =>
        refine (firstOf_checkOffset h.1).bind fun _ _ => ?_
        exact (firstOf_checkOffset h.2).bind_ok fun _ _ => ⟨_, rfl⟩
    · rw [dif_neg hf, if_neg (mt of_decide_eq_true hf)]
      exact .error _ _

theorem faults_eq_nil_iff {s : RunSettings} :
    s.faults = [] ↔ (∃ f, s.frequency = .int f ∧ 1 ≤ f) ∧ (∃ seed, s.seed = .int seed)
      ∧ s.offsetShape.isBelowZero = false ∧ s.offsetRate.isBelowZero = false := by
  have hfrequency : frequencyFault s.frequency = [] ↔ ∃ f, s.frequency = .int f ∧ 1 ≤ f := by
    unfold frequencyFault
    simp [Option.any_eq_true, Value.integer_eq_some_iff]
  have hseed : seedFault s.seed = [] ↔ ∃ seed, s.seed = .int seed := by
    unfold seedFault
    simp [Option.isSome_iff_exists, Value.integer_eq_some_iff]
  have hoffset (v : Value) : offsetFault v = [] ↔ v.isBelowZero = false := by
    unfold offsetFault
    simp
  unfold faults
  rw [List.append_eq_nil_iff, List.append_eq_nil_iff, List.append_eq_nil_iff, hfrequency, hseed,
    hoffset, hoffset]

theorem family_faults {s : RunSettings} {cause : Failure} (h : cause ∈ s.faults) :
    cause.family = .configuration := by
  unfold faults frequencyFault seedFault offsetFault at h
  repeat' rcases List.mem_append.mp h with h | h
  all_goals
    split at h
    all_goals first | cases h; done | rw [List.mem_singleton.mp h]; rfl

end RunSettings

/-! ## Rows of ratings -/

namespace Split

variable {users items : Nat}

/-- The fault of a rating outside tables of the given sizes: the user is looked at first. -/
def ratingFault (part : Part) (users items : Nat) (r : Rating) : List Failure :=
  if 0 ≤ r.user ∧ r.user < users then
    if 0 ≤ r.item ∧ r.item < items then [] else [.entryOutOfRange part .item r.shown]
  else [.entryOutOfRange part .user r.shown]

/-- The fault of a part without ratings. -/
def emptyFault (cause : Failure) (ratings : List Rating) : List Failure :=
  if ratings = [] then [cause] else []

/-- The faults of the ratings in order, those to train on first. -/
def faults (s : Split) : List Failure :=
  s.train.flatMap (ratingFault .train s.users.size s.items.size)
    ++ (s.validation.flatMap (ratingFault .validation s.users.size s.items.size)
      ++ (emptyFault .emptyTrain s.train ++ emptyFault .emptyValidation s.validation))

/-- Ratings are refused for the first row that is not there. -/
theorem firstOf_locate (part : Part) (users items : Nat) (ratings : List Rating) :
    FirstOf (ratings.flatMap (ratingFault part users items)) (locate part users items ratings) := by
  induction ratings with
  | nil => exact .ok _
  | cons r rest ih =>
    rw [List.flatMap_cons]
    unfold ratingFault locate
    by_cases hu : 0 ≤ r.user ∧ r.user < users
    · by_cases hi : 0 ≤ r.item ∧ r.item < items
      · rw [if_pos hu, if_pos hi, dif_pos hu, dif_pos hi, List.nil_append]
        exact ih.bind_ok fun _ _ => ⟨_, rfl⟩
      · rw [if_pos hu, if_neg hi, dif_pos hu, dif_neg hi]
        exact .error _ _
    · rw [if_neg hu, dif_neg hu]
      exact .error _ _

theorem emptyFault_eq_nil_iff {cause : Failure} {ratings : List Rating} :
    emptyFault cause ratings = [] ↔ ratings ≠ [] := by
  unfold emptyFault
  by_cases h : ratings = [] <;> simp [h]

/-- A rating is right if both its rows are there. -/
theorem ratingFault_eq_nil_iff {part : Part} {r : Rating} :
    ratingFault part users items r = []
      ↔ (0 ≤ r.user ∧ r.user < users) ∧ 0 ≤ r.item ∧ r.item < items := by
  unfold ratingFault
  by_cases hu : 0 ≤ r.user ∧ r.user < users
  · by_cases hi : 0 ≤ r.item ∧ r.item < items <;> simp [hu, hi]
  · simp [hu]

/-- Ratings without faults lie inside the tables, and neither part is empty. -/
theorem faults_eq_nil_iff {s : Split} :
    s.faults = [] ↔ (∀ r ∈ s.train ++ s.validation,
        (0 ≤ r.user ∧ r.user < s.users.size) ∧ 0 ≤ r.item ∧ r.item < s.items.size)
      ∧ s.train ≠ [] ∧ s.validation ≠ [] := by
  unfold faults
  simp only [List.append_eq_nil_iff, List.flatMap_eq_nil_iff, ratingFault_eq_nil_iff,
    emptyFault_eq_nil_iff, List.forall_mem_append, and_assoc]

theorem family_faults {s : Split} {cause : Failure} (h : cause ∈ s.faults) :
    cause.family = .configuration := by
  have hrating (part : Part) (r : Rating)
      (h : cause ∈ ratingFault part s.users.size s.items.size r) :
      cause.family = .configuration := by
    unfold ratingFault at h
    split at h
    · split at h
      · cases h
      · rw [List.mem_singleton.mp h]
        rfl
    · rw [List.mem_singleton.mp h]
      rfl
  unfold faults at h
  rcases List.mem_append.mp h with h | h
  · obtain ⟨r, -, hr⟩ := List.mem_flatMap.mp h
    exact hrating .train r hr
  rcases List.mem_append.mp h with h | h
  · obtain ⟨r, -, hr⟩ := List.mem_flatMap.mp h
    exact hrating .validation r hr
  unfold emptyFault at h
  rcases List.mem_append.mp h with h | h
  all_goals
    split at h
    · rw [List.mem_singleton.mp h]
      rfl
    · cases h

end Split

/-! ## Making a trainer -/

namespace Trainer

/-- All faults of what a trainer is made from, in the order in which they are looked for. -/
def faults (split : Split) (hyper : HyperSettings) (run : RunSettings) : List Failure :=
  hyper.faults ++ (run.faults ++ split.faults)

variable {split : Split} {hyper : HyperSettings} {run : RunSettings}

theorem family_faults {cause : Failure} (h : cause ∈ faults split hyper run) :
    cause.family = .configuration := by
  rcases List.mem_append.mp h with h | h
  · exact HyperSettings.family_faults h
  rcases List.mem_append.mp h with h | h
  · exact RunSettings.family_faults h
  · exact Split.family_faults h

/-- The test for a part without ratings. -/
theorem firstOf_empty {β : Type} {cause : Failure} {gs : List Failure} {ratings : List Rating}
    {part : Part} {users items : Nat} {observations : List (Observation Float users items)}
    (hlocate : Split.locate part users items ratings = .ok observations)
    {x : Except Failure β} (hx : FirstOf gs x) :
    FirstOf (Split.emptyFault cause ratings ++ gs)
      (if observations.isEmpty then .error cause else x) := by
  unfold Split.emptyFault
  by_cases hnil : ratings = []
  · subst hnil
    cases hlocate
    exact .error cause gs
  · have hobservations : ¬ observations.isEmpty = true :=
      mt List.isEmpty_iff.mp (Split.ne_nil_of_locate hlocate hnil)
    rw [if_neg hnil, if_neg hobservations, List.nil_append]
    exact hx

/-- A split and its settings are refused for the first fault, and accepted if there is none. -/
theorem firstOf_accept (hhyper : hyper.IsNumeric) (hrun : run.IsNumeric) :
    FirstOf (faults split hyper run) (accept split hyper run) := by
  unfold faults accept Split.faults
  refine (HyperSettings.firstOf_check hhyper).bind fun h _ => ?_
  refine (RunSettings.firstOf_check hrun).bind fun r _ => ?_
  refine (Split.firstOf_locate _ _ _ _).bind fun train htrain => ?_
  refine (Split.firstOf_locate _ _ _ _).bind fun validation hvalidation => ?_
  refine firstOf_empty htrain ?_
  rw [← List.append_nil (Split.emptyFault _ _)]
  exact firstOf_empty hvalidation (.ok _)

/-- The failure of a number that has no double: an integer beyond the largest. -/
def rangeFault (v : Value) : List Failure :=
  match v.number? with
  | some (.int i) => if Decimal.isFinite (Decimal.ofInteger i) then [] else [.integerTooLarge]
  | _ => []

/-- The failures of the priors and offsets that have no double. -/
def rangeFaults (hyper : HyperSettings) (run : RunSettings) : List Failure :=
  hyper.priors.named.flatMap (fun e => rangeFault e.2)
    ++ (rangeFault run.offsetShape ++ rangeFault run.offsetRate)

/-- Reading a double stops at an integer that is too large. -/
theorem firstOf_read {v : Value} {n : Number} (h : v.number? = some n) :
    FirstOf (rangeFault v) (Arithmetic.doubles.read n) := by
  refine FirstOf.bind_ok (x := n.toFloat?) ?_ fun x _ => ⟨x, rfl⟩
  unfold rangeFault
  rw [h]
  cases n with
  | float x => exact .ok x
  | int i =>
    unfold Number.toFloat?
    dsimp only
    by_cases hfinite : Decimal.isFinite (Decimal.ofInteger i) = true
    · rw [if_pos hfinite, if_pos hfinite]
      exact .ok _
    · rw [if_neg hfinite, if_neg hfinite]
      exact .error _ []

/-- What passed the check of a prior is the number that was given. -/
theorem number_of_checkPrior {name : String} {v : Value} {n : Number}
    (h : HyperSettings.checkPrior name v = .ok n) : v.number? = some n := by
  obtain ⟨m, hm, h⟩ := bind_eq_ok_iff.mp h
  split at h
  · cases h
    exact Value.number_of_comparable hm
  · cases h

/-- What passed the check of an offset is the number that was given. -/
theorem number_of_checkOffset {v : Value} {n : Number} (h : RunSettings.checkOffset v = .ok n) :
    v.number? = some n := by
  obtain ⟨m, hm, h⟩ := bind_eq_ok_iff.mp h
  split at h
  · cases h
  · cases h
    exact Value.number_of_comparable hm

/-- Checked priors are read one after the other. -/
theorem firstOf_readPriors {h : Hyper} (hh : hyper.check = .ok h) :
    FirstOf (hyper.priors.named.flatMap fun e => rangeFault e.2)
      (h.priors.mapM fun _ n => Arithmetic.doubles.read n) := by
  obtain ⟨ha, ha', hb', hc, hc', hd'⟩ :=
    Priors.mapM_eq_ok_iff.mp (HyperSettings.mapM_checkPrior_of_check hh)
  have hread {name : String} {v : Value} {n : Number}
      (hn : HyperSettings.checkPrior name v = .ok n) :
      FirstOf (rangeFault v) (Arithmetic.doubles.read n) :=
    firstOf_read (number_of_checkPrior hn)
  unfold Priors.named Priors.mapM
  simp only [List.flatMap_cons, List.flatMap_nil]
  refine (hread ha).bind fun _ _ => (hread ha').bind fun _ _ => (hread hb').bind fun _ _ => ?_
  refine (hread hc).bind fun _ _ => (hread hc').bind fun _ _ => (hread hd').bind fun _ _ => ?_
  exact .ok _

/-- Checked offsets are read. -/
theorem firstOf_readOffsets {r : Run} (hr : run.check = .ok r) :
    FirstOf (rangeFault run.offsetShape) (Arithmetic.doubles.read r.offsetShape)
      ∧ FirstOf (rangeFault run.offsetRate) (Arithmetic.doubles.read r.offsetRate) := by
  obtain ⟨hshape, hrate⟩ := RunSettings.checkOffset_of_check hr
  exact ⟨firstOf_read (number_of_checkOffset hshape), firstOf_read (number_of_checkOffset hrate)⟩

end Trainer

/-- What was accepted is made a trainer unless an integer is too large for the doubles. -/
theorem Checked.firstOf_trainer {split : Split} {hyper : HyperSettings} {run : RunSettings}
    {rule : StoppingRule Float} {c : Checked} (hc : Trainer.accept split hyper run = .ok c) :
    FirstOf (Trainer.rangeFaults hyper run) (c.trainer .doubles rule) := by
  obtain ⟨h, hh, r, hr, train, -, validation, -, -, -, rfl⟩ := Trainer.accept_eq_ok_iff.mp hc
  refine (Trainer.firstOf_readPriors hh).bind fun prior _ => ?_
  refine (Trainer.firstOf_readOffsets hr).1.bind fun _ _ => ?_
  exact (Trainer.firstOf_readOffsets hr).2.bind_ok fun _ _ => ⟨_, rfl⟩

end PoissonFactor
