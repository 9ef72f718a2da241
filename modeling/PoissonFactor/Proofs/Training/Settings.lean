import PoissonFactor.Proofs.Outcome
import PoissonFactor.Training.Settings
import PoissonFactor.Training.Stopping

/-!
# What checked settings are

A settings section gives its priors and offsets as doubles. Once they have passed their
checks, the priors lie above zero and the offsets do not lie below
(`HyperSettings.priors_of_check`, `RunSettings.offsets_of_check`). What it takes to accept a
rule (`StoppingRule.ofIterations_eq_ok_iff`, `StoppingRule.ofThreshold_eq_ok_iff`) has
nothing to do with the changes that it will be shown.
-/

namespace PoissonFactor

theorem Priors.mapM_eq_ok_iff {α β : Type} {f : String → α → Except Failure β} {p : Priors α}
    {q : Priors β} :
    p.mapM f = .ok q ↔ f "a" p.a = .ok q.a ∧ f "a_prime" p.aPrime = .ok q.aPrime
      ∧ f "b_prime" p.bPrime = .ok q.bPrime ∧ f "c" p.c = .ok q.c
      ∧ f "c_prime" p.cPrime = .ok q.cPrime ∧ f "d_prime" p.dPrime = .ok q.dPrime := by
  unfold Priors.mapM
  simp only [bind_eq_ok_iff]
  constructor
  · rintro ⟨a, ha, a', ha', b', hb', c, hc, c', hc', d', hd', hq⟩
    cases hq
    exact ⟨ha, ha', hb', hc, hc', hd'⟩
  · rintro ⟨ha, ha', hb', hc, hc', hd'⟩
    exact ⟨_, ha, _, ha', _, hb', _, hc, _, hc', _, hd', rfl⟩

/-- Applies a function to every prior. -/
def Priors.map {α β : Type} (f : α → β) (p : Priors α) : Priors β where
  a := f p.a
  aPrime := f p.aPrime
  bPrime := f p.bPrime
  c := f p.c
  cPrime := f p.cPrime
  dPrime := f p.dPrime

/-- The priors keep their names. -/
theorem Priors.named_map {α β : Type} (f : α → β) (p : Priors α) :
    (p.map f).named = p.named.map fun e => (e.1, f e.2) :=
  rfl

/-- Priors that are doubles. -/
def Priors.ofDoubles (x : Priors Float) : Priors Number :=
  x.map .float

namespace HyperSettings

theorem checkPrior_float_iff {name : String} {x : Float} {n : Number} :
    checkPrior name (.float x) = .ok n ↔ n = .float x ∧ (Number.int 0).lt (.float x) = true := by
  have hcheck : checkPrior name (.float x) = if (Number.int 0).lt (.float x) = true
      then .ok (.float x) else .error (.priorNotPositive name (Value.float x).shown) := rfl
  rw [hcheck]
  by_cases hpos : (Number.int 0).lt (.float x) = true
  · rw [if_pos hpos, Except.ok.injEq, and_iff_left hpos, eq_comm]
  · rw [if_neg hpos]
    constructor
    · intro h
      cases h
    · rintro ⟨-, h⟩
      exact absurd h hpos

/-- Checked priors are the given ones, each behind its check. -/
theorem mapM_checkPrior_of_check {s : HyperSettings} {h : Hyper} (hh : s.check = .ok h) :
    s.priors.mapM checkPrior = .ok h.priors := by
  obtain ⟨priors, hpriors, hh⟩ := bind_eq_ok_iff.mp hh
  split at hh
  · cases hh
  · split at hh
    · cases hh
      exact hpriors
    · cases hh

/-- The priors of a section that passed their check are doubles above zero. -/
theorem priors_of_check {given : Settings.Section} {s : HyperSettings} {h : Hyper}
    (hs : ofSection given = .ok s) (hh : s.check = .ok h) :
    ∃ x : Priors Float, h.priors = x.ofDoubles
      ∧ ∀ e ∈ x.named, (Number.int 0).lt (.float e.2) = true := by
  unfold ofSection at hs
  simp only [bind_eq_ok_iff] at hs
  obtain ⟨a, -, a', -, b', -, c, -, c', -, d', -, k, -, hs⟩ := hs
  cases hs
  obtain ⟨ha, ha', hb', hc, hc', hd'⟩ := Priors.mapM_eq_ok_iff.mp (mapM_checkPrior_of_check hh)
  obtain ⟨ha, hapos⟩ := checkPrior_float_iff.mp ha
  obtain ⟨ha', hapos'⟩ := checkPrior_float_iff.mp ha'
  obtain ⟨hb', hbpos'⟩ := checkPrior_float_iff.mp hb'
  obtain ⟨hc, hcpos⟩ := checkPrior_float_iff.mp hc
  obtain ⟨hc', hcpos'⟩ := checkPrior_float_iff.mp hc'
  obtain ⟨hd', hdpos'⟩ := checkPrior_float_iff.mp hd'
  refine ⟨⟨a, a', b', c, c', d'⟩, ?_, ?_⟩
  · generalize h.priors = priors at *
    obtain ⟨pa, pa', pb', pc, pc', pd'⟩ := priors
    cases ha
    cases ha'
    cases hb'
    cases hc
    cases hc'
    cases hd'
    rfl
  · simp only [Priors.named, List.forall_mem_cons]
    exact ⟨hapos, hapos', hbpos', hcpos, hcpos', hdpos', fun _ h => absurd h List.not_mem_nil⟩

end HyperSettings

namespace RunSettings

theorem checkOffset_float_iff {x : Float} {n : Number} :
    checkOffset (.float x) = .ok n ↔ n = .float x ∧ (Number.float x).lt (.int 0) = false := by
  have hcheck : checkOffset (.float x) = if (Number.float x).lt (.int 0) = true
      then .error .offsetsNegative else .ok (.float x) := rfl
  rw [hcheck]
  by_cases hneg : (Number.float x).lt (.int 0) = true
  · rw [if_pos hneg, hneg]
    constructor
    · intro h
      cases h
    · rintro ⟨-, h⟩
      cases h
  · rw [if_neg hneg, Except.ok.injEq, and_iff_left (Bool.eq_false_iff.mpr hneg), eq_comm]

/-- Checked offsets are the given ones, each behind its check. -/
theorem checkOffset_of_check {s : RunSettings} {r : Run} (hr : s.check = .ok r) :
    checkOffset s.offsetShape = .ok r.offsetShape
      ∧ checkOffset s.offsetRate = .ok r.offsetRate := by
  unfold check at hr
  split at hr
  · cases hr
  · split at hr
    · split at hr
      · cases hr
      · obtain ⟨n, hn, hr⟩ := bind_eq_ok_iff.mp hr
        obtain ⟨m, hm, hr⟩ := bind_eq_ok_iff.mp hr
        cases hr
        exact ⟨hn, hm⟩
    · cases hr

/-- The offsets of a section that passed their check are doubles that are not negative. -/
theorem offsets_of_check {given : Settings.Section} {s : RunSettings} {r : Run}
    (hs : ofSection given = .ok s) (hr : s.check = .ok r) :
    ∃ x y : Float, r.offsetShape = .float x ∧ r.offsetRate = .float y
      ∧ (Number.float x).lt (.int 0) = false ∧ (Number.float y).lt (.int 0) = false := by
  unfold ofSection at hs
  simp only [bind_eq_ok_iff] at hs
  obtain ⟨f, -, k, -, x, -, y, -, hs⟩ := hs
  cases hs
  obtain ⟨hn, hm⟩ := checkOffset_of_check hr
  obtain ⟨hshape, hx⟩ := checkOffset_float_iff.mp hn
  obtain ⟨hrate, hy⟩ := checkOffset_float_iff.mp hm
  exact ⟨x, y, hshape, hrate, hx, hy⟩

end RunSettings

namespace StoppingRule

variable {χ ψ : Type}

/-- What it takes for a number of iterations to be accepted. -/
theorem ofIterations_eq_ok_iff {v : Value} {rule : StoppingRule χ} :
    ofIterations v = .ok rule ↔
      ∃ n, v.comparable = .ok n ∧ n.lt (.int 0) = false ∧ rule = .iterations n := by
  unfold ofIterations
  rw [bind_eq_ok_iff]
  refine exists_congr fun n => and_congr_right fun _ => ?_
  cases n.lt (.int 0) with
  | true =>
    constructor
    · intro h
      cases h
    · rintro ⟨h, -⟩
      cases h
  | false =>
    constructor
    · intro h
      cases h
      exact ⟨rfl, rfl⟩
    · rintro ⟨-, rfl⟩
      rfl

/-- What it takes for a threshold to be accepted. -/
theorem ofThreshold_eq_ok_iff {tValue minimum : Value} {maximum : Option Value}
    {rule : StoppingRule χ} :
    ofThreshold tValue minimum maximum = .ok rule ↔
      ∃ t, tValue.comparable = .ok t ∧ t.lt (.int 0) = false
        ∧ ∃ a, minimum.comparable = .ok a ∧ a.lt (.int 0) = false
        ∧ ∃ b, maximum.mapM Value.comparable = .ok b ∧ (∀ m ∈ b, m.lt a = false)
        ∧ rule = .threshold t a b := by
  unfold ofThreshold
  rw [bind_eq_ok_iff]
  refine exists_congr fun t => and_congr_right fun _ => ?_
  cases t.lt (.int 0) with
  | true =>
    constructor
    · intro h
      cases h
    · rintro ⟨h, -⟩
      cases h
  | false =>
  rw [if_neg Bool.false_ne_true, bind_eq_ok_iff, and_iff_right rfl]
  refine exists_congr fun a => and_congr_right fun _ => ?_
  cases a.lt (.int 0) with
  | true =>
    constructor
    · intro h
      cases h
    · rintro ⟨h, -⟩
      cases h
  | false =>
  rw [if_neg Bool.false_ne_true, and_iff_right rfl]
  cases maximum with
  | none =>
    constructor
    · intro h
      cases h
      exact ⟨none, rfl, fun _ hm => absurd hm (Option.not_mem_none _), rfl⟩
    · rintro ⟨b, hb, -, rfl⟩
      cases hb
      rfl
  | some v =>
    show (v.comparable >>= _) = _ ↔ _
    rw [bind_eq_ok_iff]
    constructor
    · rintro ⟨m, hm, h⟩
      by_cases hlt : m.lt a = true
      · rw [if_pos hlt] at h
        cases h
      · rw [if_neg hlt] at h
        cases h
        refine ⟨some m, ?_, ?_, rfl⟩
        · rw [Option.mapM_some, hm]
          rfl
        · rintro _ ⟨⟩
          exact Bool.eq_false_iff.mpr hlt
    · rintro ⟨b, hb, hle, rfl⟩
      rw [Option.mapM_some] at hb
      obtain ⟨m, hm, hb⟩ := bind_eq_ok_iff.mp hb
      cases hb
      refine ⟨m, hm, ?_⟩
      rw [if_neg (Bool.eq_false_iff.mp (hle m rfl))]
      rfl

/-- A section that gives a rule gives one for changes of any type. -/
theorem exists_ofSection {s : Settings.Section} {rule : StoppingRule χ}
    (h : ofSection s = .ok rule) : ∃ rule' : StoppingRule ψ, ofSection s = .ok rule' := by
  unfold ofSection at h ⊢
  -- What is read from the section knows no type of changes; only the last step names one.
  obtain ⟨maximum, hmaximum, h⟩ := bind_eq_ok_iff.mp h
  rw [hmaximum]
  dsimp only [bind, Except.bind] at h ⊢
  split at h
  next n _ =>
    obtain ⟨m, hm, hnonneg, -⟩ := ofIterations_eq_ok_iff.mp h
    exact ⟨_, ofIterations_eq_ok_iff.mpr ⟨m, hm, hnonneg, rfl⟩⟩
  next =>
    obtain ⟨t, ht, h⟩ := bind_eq_ok_iff.mp h
    obtain ⟨minimum, hminimum, h⟩ := bind_eq_ok_iff.mp h
    obtain ⟨t', ht', ht₀, a, ha, ha₀, b, hb, hab, -⟩ := ofThreshold_eq_ok_iff.mp h
    rw [ht]
    dsimp only
    rw [hminimum]
    exact ⟨_, ofThreshold_eq_ok_iff.mpr ⟨t', ht', ht₀, a, ha, ha₀, b, hb, hab, rfl⟩⟩

end StoppingRule

end PoissonFactor
