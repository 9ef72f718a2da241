import PoissonFactor.Model.Special
import PoissonFactor.Proofs.Training.Settings
import PoissonFactor.Proofs.Training.Trace
import PoissonFactor.Proofs.Value.Number

/-!
# Where training ends

A rule is shown a change before every iteration, but the change is a new one only
behind a multiple of the frequency; between evaluations it is held over. So a rule
with a threshold, once past its least number of iterations, can only be set off by an
evaluation that has just been made:

> `Loop.endedAtThreshold`: where a run under a threshold stands when it is told to
> stop.

With a greatest number of iterations a rule says stop whatever it is shown, and every
loop that follows it ends (`StoppingRule.Caps`). The rules that a settings section
gives all have one. Main results:

> `StoppingRule.training_ends`: where training to a threshold ends, and that training
> with a greatest number of iterations does.

> `Trainer.fitFrom_endedAtThreshold` and `Trainer.fitFrom_ends`: both for a fit.
-/

namespace PoissonFactor

/-! ## Exact comparisons -/

/-- The size of a real is at a number or below. Above every real is the positive infinity, and
nothing is at or below the value that is no number. -/
def Number.Covers (t : Number) (x : ℝ) : Prop :=
  match t.exact with
  | .finite r => |x| ≤ r
  | .positive => True
  | .negative | .nan => False

open Classical in
/-- The comparison of a change with a threshold, both exact. -/
noncomputable def exactWithin (change : ℝ) (t : Number) : Except Failure Bool :=
  .ok (decide (t.Covers change))

open Classical in
theorem exactWithin_eq_true_iff (x : ℝ) (t : Number) : exactWithin x t = .ok true ↔ t.Covers x := by
  unfold exactWithin
  rw [Except.ok.injEq, decide_eq_true_iff]

open Classical in
theorem exactWithin_eq_false_iff (x : ℝ) (t : Number) :
    exactWithin x t = .ok false ↔ ¬ t.Covers x := by
  unfold exactWithin
  rw [Except.ok.injEq, decide_eq_false_iff_not]

/-! ## Rules that say stop -/

namespace StoppingRule

section

variable {χ : Type} {within : χ → Number → Except Failure Bool} {rule : StoppingRule χ}

/-- Shown the changes `x 0`, `x 1`, … at the counts `0`, `1`, …, the rule allows `n` iterations and
then says stop. -/
structure StopsAt (rule : StoppingRule χ) (within : χ → Number → Except Failure Bool)
    (x : Nat → χ) (n : Nat) : Prop where
  goes : ∀ j < n, rule.stops within j (x j) = .ok false
  stops : rule.stops within n (x n) = .ok true

/-- A rule that always answers and says stop at `n` has a first count at which it does. -/
theorem exists_stopsAt (hanswer : ∀ n x, ∃ b, rule.stops within n x = .ok b) {x : Nat → χ} {n : Nat}
    (h : rule.stops within n (x n) = .ok true) : ∃ m ≤ n, rule.StopsAt within x m := by
  classical
  have hex : ∃ m, rule.stops within m (x m) = .ok true := ⟨n, h⟩
  refine ⟨Nat.find hex, Nat.find_min' hex h, fun j hj => ?_, Nat.find_spec hex⟩
  obtain ⟨b, hb⟩ := hanswer j (x j)
  cases b with
  | true => exact absurd hb (Nat.find_min hex hj)
  | false => exact hb

/-! ## A threshold between two numbers of iterations -/

variable {t : Number} {a : Int} {b : Option Int} {n : Nat} {x : χ}

/-- At the greatest number of iterations the rule says stop. -/
theorem threshold_stops_of_reached {m : Int} (hm : b = some m) (h : m ≤ n) :
    (threshold t (.int a) (b.map .int)).stops within n x = .ok true := by
  subst hm
  exact if_pos ((Number.int_le_int m n).mpr h)

/-- Below it, the rule says stop when the least number is reached and the change is small. -/
theorem threshold_stops_of_below (h : ∀ m ∈ b, (n : Int) < m) :
    (threshold t (.int a) (b.map .int)).stops within n x
      = if a ≤ n then within x t else .ok false := by
  cases b with
  | none =>
    show (if false = true then .ok true
      else if (Number.int a).le (.int n) = true then within x t else .ok false) = _
    rw [if_neg Bool.false_ne_true]
    simp only [Number.int_le_int]
  | some m =>
    have hbelow : ¬ (Number.int m).le (.int n) = true := by
      rw [Number.int_le_int, Int.not_le]
      exact h m rfl
    show (if (Number.int m).le (.int n) = true then .ok true
      else if (Number.int a).le (.int n) = true then within x t else .ok false) = _
    rw [if_neg hbelow]
    simp only [Number.int_le_int]

/-- What it takes for a threshold between two integers to be accepted. -/
theorem ofThreshold_eq_ok {tValue minimum : Value} {maximum : Option Value}
    (hrule : ofThreshold tValue minimum maximum = .ok rule) (ha : minimum.number? = some (.int a))
    (hb : maximum.map Value.number? = b.map fun m => some (.int m)) :
    ∃ t, tValue.comparable = .ok t ∧ rule = .threshold t (.int a) (b.map .int)
      ∧ 0 ≤ a ∧ ∀ m ∈ b, a ≤ m := by
  obtain ⟨t, ht, -, a', ha', ha₀, b', hb', hab, rfl⟩ := ofThreshold_eq_ok_iff.mp hrule
  have hmaximum : maximum.mapM Value.comparable = .ok (b.map .int) := by
    cases maximum with
    | none =>
      cases b with
      | none => rfl
      | some m => cases hb
    | some v =>
      cases b with
      | none => cases hb
      | some m =>
        rw [Option.mapM_some, Value.comparable_of_number (Option.some.inj hb)]
        rfl
  cases ha'.symm.trans (Value.comparable_of_number ha)
  cases hb'.symm.trans hmaximum
  refine ⟨t, ht, rfl, ?_, fun m hm => ?_⟩
  · rwa [Bool.eq_false_iff, Ne, Number.int_lt_int, Int.not_lt] at ha₀
  · have hlt := hab (.int m) (Option.mem_map_of_mem _ hm)
    rwa [Bool.eq_false_iff, Ne, Number.int_lt_int, Int.not_lt] at hlt

/-! ## A number of iterations -/

/-- A number of iterations is kept exactly, whatever the changes. -/
theorem iterations_stopsAt {i : Int} (hi : 0 ≤ i) (x : Nat → χ) :
    (iterations (.int i)).StopsAt within x i.toNat := by
  have hstops : ∀ n y, (iterations (.int i)).stops within n y = .ok (decide (i ≤ (n : Int))) := by
    intro n y
    show Except.ok ((Number.int i).le (.int n)) = _
    rw [Bool.eq_iff_iff.mpr ((Number.int_le_int i n).trans decide_eq_true_iff.symm)]
  refine ⟨fun j hj => ?_, ?_⟩
  · rw [hstops, decide_eq_false (by omega)]
  · rw [hstops, decide_eq_true (by omega)]

theorem ofIterations_eq_ok {v : Value} {i : Int} (hv : v.number? = some (.int i))
    (hrule : ofIterations v = .ok rule) : rule = .iterations (.int i) ∧ 0 ≤ i := by
  obtain ⟨n, hn, hi, rfl⟩ := ofIterations_eq_ok_iff.mp hrule
  cases hn.symm.trans (Value.comparable_of_number hv)
  rw [Bool.eq_false_iff, Ne, Number.int_lt_int, Int.not_lt] at hi
  exact ⟨rfl, hi⟩

end

end StoppingRule

/-! ## A run under a threshold -/

namespace Loop

variable {σ α : Type} [Scalar α]

/-- Where a run from `s` stands that was told to stop after `n` iterations, by a threshold between
`a` and `b` iterations. `small` says which changes are at the threshold or below. -/
structure EndedAtThreshold (l : Loop Id σ α) (s : σ) (small : α → Prop) (a : Int) (b : Option Int)
    (n : Nat) : Prop where
  minimum : a ≤ n
  maximum : ∀ m ∈ b, (n : Int) ≤ m
  /-- No change that was shown from the least number on was small … -/
  earlier : ∀ j < n, a ≤ j → ¬ small (l.changeAt s j)
  /-- … and so none of the evaluations from there on had one. -/
  evaluations : ∀ e ∈ l.historyAt s n, a ≤ e.iteration → e.iteration < n → ¬ small e.change
  /-- Unless the greatest number is reached, the last one was. -/
  last : (∀ m ∈ b, (n : Int) ≠ m) → small (l.changeAt s n)
  /-- Past the least number, it is that of an evaluation made right behind the last iteration. -/
  fresh : (∀ m ∈ b, (n : Int) ≠ m) → a < n →
    l.frequency ∣ n ∧ ∃ e, (l.historyAt s n).getLast? = some e ∧ e.iteration = n
      ∧ e.change = l.changeAt s n

variable {l : Loop Id σ α} {s : σ} {n : Nat}

/-- The change of an evaluation is the one shown right behind it. -/
theorem change_of_mem_historyAt (hf : 1 ≤ l.frequency) {e : Evaluation α}
    (he : e ∈ l.historyAt s n) : ∃ j ≤ n, e.iteration = (j : Nat) ∧ e.change = l.changeAt s j := by
  obtain ⟨m, hm, rfl⟩ := List.mem_map.mp he
  have hle : (m + 1) * l.frequency ≤ n := (Nat.le_div_iff_mul_le hf).mp (List.mem_range.mp hm)
  refine ⟨(m + 1) * l.frequency, hle, rfl, ?_⟩
  have hge : ¬ (m + 1) * l.frequency < l.frequency :=
    Nat.not_lt.mpr (Nat.le_mul_of_pos_left _ (Nat.succ_pos m))
  unfold changeAt
  rw [if_neg hge, Nat.mul_div_cancel _ hf]
  rfl

/-- At a multiple of the frequency the last entry of the record is from that very iteration. -/
theorem getLast?_historyAt (hm : (n + 1) % l.frequency = 0) :
    ∃ e, (l.historyAt s (n + 1)).getLast? = some e ∧ e.iteration = (n + 1 : Nat)
      ∧ e.change = l.changeAt s (n + 1) := by
  refine ⟨l.evaluationAt s (n / l.frequency + 1), ?_, ?_, ?_⟩
  · rw [historyAt_of_multiple l s hm, List.getLast?_concat]
  · rw [evaluationAt_of_multiple l s hm]
  · rw [evaluationAt_of_multiple l s hm, changeAt_of_multiple l s hm]

/-- **Where a run under a threshold ends.** -/
theorem endedAtThreshold {t : Number} {a : Int} {b : Option Int} {small : α → Prop}
    {within : α → Number → Except Failure Bool} (hf : 1 ≤ l.frequency) (ha : 0 ≤ a)
    (hab : ∀ m ∈ b, a ≤ m) (hsmall : ∀ x, within x t = .ok true ↔ small x)
    (hl : ∀ n x, l.answer n x = (StoppingRule.threshold t (.int a) (b.map .int)).stops within n x)
    (h : l.FinishesAt s n) : l.EndedAtThreshold s small a b n := by
  have hmaximum : ∀ m ∈ b, (n : Int) ≤ m := by
    intro m hm
    by_contra hlt
    -- The greatest number was passed, and there the rule said stop already.
    have hreached : m ≤ (m.toNat : Nat) := Int.self_le_toNat m
    have hm0 : 0 ≤ m := le_trans ha (hab m hm)
    have hgo := h.goes m.toNat (by omega)
    rw [hl, StoppingRule.threshold_stops_of_reached hm hreached] at hgo
    cases hgo
  have hbelow : ∀ j < n, ∀ m ∈ b, (j : Int) < m := fun j hj m hm => by
    have := hmaximum m hm
    omega
  have hearlier : ∀ j < n, a ≤ j → ¬ small (l.changeAt s j) := by
    intro j hj haj hs
    have hgo := h.goes j hj
    rw [hl, StoppingRule.threshold_stops_of_below (hbelow j hj), if_pos haj,
      (hsmall _).mpr hs] at hgo
    cases hgo
  have hminimum : a ≤ n := by
    by_contra hlt
    have hstop := h.stops
    rw [hl, StoppingRule.threshold_stops_of_below fun m hm => lt_of_lt_of_le (Int.not_le.mp hlt)
      (hab m hm), if_neg hlt] at hstop
    cases hstop
  have hlast : (∀ m ∈ b, (n : Int) ≠ m) → small (l.changeAt s n) := by
    intro hne
    have hstop := h.stops
    rw [hl, StoppingRule.threshold_stops_of_below fun m hm => lt_of_le_of_ne (hmaximum m hm)
      (hne m hm), if_pos hminimum] at hstop
    exact (hsmall _).mp hstop
  refine ⟨hminimum, hmaximum, hearlier, ?_, hlast, ?_⟩
  · intro e he hae hen
    obtain ⟨j, -, hiteration, hchange⟩ := change_of_mem_historyAt hf he
    rw [hiteration] at hae hen
    rw [hchange]
    exact hearlier j (by omega) hae
  · intro hne han
    cases n with
    | zero => exact absurd han (by omega)
    | succ n =>
      -- A change that is held over was shown before, and was not small then.
      have hm : (n + 1) % l.frequency = 0 := by
        by_contra hm
        have hheld := hlast hne
        rw [changeAt_of_not_multiple l s hm] at hheld
        exact hearlier n (Nat.lt_succ_self n) (by omega) hheld
      exact ⟨Nat.dvd_of_mod_eq_zero hm, getLast?_historyAt hm⟩

/-- A loop whose rule says stop at `n` ends, and begins no more than `n` iterations. -/
theorem exists_runFrom_eq_some (hf : 1 ≤ l.frequency) {rule : StoppingRule α}
    {within : α → Number → Except Failure Bool} (hl : ∀ n x, l.answer n x = rule.stops within n x)
    (h : rule.StopsAt within (l.changeAt s) n) (c : Nat) :
    ∃ q e, l.runFrom (begin s c) = some (q, e) ∧ q.begun ≤ n := by
  have hstop : ∀ {q : Progress σ α} {e : Ending}, l.EndsAs (l.progressAt s c n) q e →
      q.begun ≤ n := by
    intro q e hend
    cases hend with
    | told => exact Nat.le_refl n
    | ruleFailed => exact Nat.le_refl n
    | checkFailed ha => cases ((hl _ _).symm.trans ha).symm.trans h.stops
    | notFinite ha => cases ((hl _ _).symm.trans ha).symm.trans h.stops
  rcases run_cases l s c with ⟨-, hall⟩ | ⟨m, q, e, -, hgo, hend⟩
  · have hn := hall n
    rw [iterate_begin l hf] at hn
    cases ((hl _ _).symm.trans hn.asked).symm.trans h.stops
  · refine ⟨q, e, runFrom_eq_some_iff.mpr ⟨m, hgo, hend⟩, ?_⟩
    rw [iterate_begin l hf] at hend
    rcases Nat.lt_trichotomy m n with hlt | rfl | hgt
    · -- The step that ends the run begins at most one more iteration.
      have hbegun : q.begun ≤ m + 1 := by
        cases hend with
        | told => exact Nat.le_succ m
        | ruleFailed => exact Nat.le_succ m
        | checkFailed => exact Nat.le_refl _
        | notFinite => exact Nat.le_refl _
      omega
    · exact hstop hend
    · have hn := hgo n hgt
      rw [iterate_begin l hf] at hn
      cases ((hl _ _).symm.trans hn.asked).symm.trans h.stops

end Loop

/-! ## Rules with a greatest number of iterations -/

namespace StoppingRule

section

variable {α : Type} [Scalar α] {within : α → Number → Except Failure Bool} {rule : StoppingRule α}

/-- Whatever changes it is shown, the rule says stop after at most `m` iterations, and every loop
that follows it ends and begins no more than these. -/
structure Caps (rule : StoppingRule α) (within : α → Number → Except Failure Bool) (m : Int) :
    Prop where
  stops : ∀ x : Nat → α, ∃ n : Nat, (n : Int) ≤ m ∧ rule.StopsAt within x n
  loops : ∀ (σ : Type) (l : Loop Id σ α), 1 ≤ l.frequency →
    (∀ n x, l.answer n x = rule.stops within n x) →
    ∀ s c, ∃ q e, l.runFrom (Loop.begin s c) = some (q, e) ∧ (q.begun : Int) ≤ m

theorem caps_of_stopsAt {m : Int}
    (h : ∀ x : Nat → α, ∃ n : Nat, (n : Int) ≤ m ∧ rule.StopsAt within x n) :
    rule.Caps within m := by
  refine ⟨h, fun σ l hf hl s c => ?_⟩
  obtain ⟨n, hn, hstops⟩ := h (l.changeAt s)
  obtain ⟨q, e, hrun, hq⟩ := Loop.exists_runFrom_eq_some hf hl hstops c
  exact ⟨q, e, hrun, le_trans (Int.ofNat_le.mpr hq) hn⟩

/-- A threshold with a greatest number of iterations keeps to it. -/
theorem threshold_caps (hwithin : ∀ x t, ∃ b, within x t = .ok b) {t : Number} {a m : Int}
    (hm : 0 ≤ m) : (threshold t (.int a) (some (.int m))).Caps within m := by
  refine caps_of_stopsAt fun x => ?_
  have hanswer : ∀ n y, ∃ b, (threshold t (.int a) ((some m).map .int)).stops within n y
      = .ok b := by
    intro n y
    by_cases hn : m ≤ n
    · exact ⟨true, threshold_stops_of_reached rfl hn⟩
    · rw [threshold_stops_of_below fun m' hm' => Option.some.inj hm' ▸ Int.not_le.mp hn]
      by_cases ha : a ≤ n
      · rw [if_pos ha]
        exact hwithin y t
      · rw [if_neg ha]
        exact ⟨false, rfl⟩
  have hreached : m ≤ (m.toNat : Nat) := Int.self_le_toNat m
  obtain ⟨n, hn, hstops⟩ := exists_stopsAt hanswer (x := x)
    (threshold_stops_of_reached rfl hreached)
  exact ⟨n, by omega, hstops⟩

theorem iterations_caps {i : Int} (hi : 0 ≤ i) : (iterations (.int i)).Caps within i :=
  caps_of_stopsAt fun x => ⟨i.toNat, by omega, iterations_stopsAt hi x⟩

/-- A rule from a settings section has a greatest number of iterations: the one it names, or a
hundred. -/
theorem ofSection_caps (hwithin : ∀ x t, ∃ b, within x t = .ok b) {s : Settings.Section}
    (hrule : ofSection s = .ok rule) :
    ∃ maximum, Setting.integer? (s.get "max_iterations") = .ok maximum
      ∧ rule.Caps within (maximum.getD 100) := by
  unfold ofSection at hrule
  rw [bind_eq_ok_iff] at hrule
  obtain ⟨maximum, hmaximum, hrule⟩ := hrule
  refine ⟨maximum, hmaximum, ?_⟩
  have hthreshold : ∀ {v : Value}, (do
      let t ← Setting.decimal v 1e-4
      let minimum ← Setting.integer (s.get "min_iterations") 0
      ofThreshold (.float t) (.int minimum) (some (.int (maximum.getD 100)))) = .ok rule →
      rule.Caps within (maximum.getD 100) := by
    intro v h
    simp only [bind_eq_ok_iff] at h
    obtain ⟨t, -, minimum, -, h⟩ := h
    obtain ⟨t', -, rfl, hmin, hle⟩ := ofThreshold_eq_ok h (a := minimum)
      (b := some (maximum.getD 100)) rfl rfl
    exact threshold_caps hwithin (le_trans hmin (hle _ rfl))
  split at hrule
  next n _ =>
    obtain ⟨rfl, hn⟩ := ofIterations_eq_ok (i := n) rfl hrule
    exact iterations_caps hn
  next => exact hthreshold hrule

end

/-- Where a run stands that followed an accepted threshold and was told to stop. -/
theorem exists_endedAtThreshold [SpecialFunctions] {σ : Type} {l : Loop Id σ ℝ}
    {rule : StoppingRule ℝ} {tValue minimum : Value} {maximum : Option Value} {a : Int}
    {b : Option Int} (hrule : ofThreshold tValue minimum maximum = .ok rule)
    (ha : minimum.number? = some (.int a))
    (hb : maximum.map Value.number? = b.map fun m => some (.int m)) (hf : 1 ≤ l.frequency)
    (hl : ∀ n x, l.answer n x = rule.stops exactWithin n x) {s : σ} {c : Nat} {q : Progress σ ℝ}
    (hrun : l.run s c = (q, .finished)) :
    ∃ t, tValue.comparable = .ok t ∧ l.EndedAtThreshold s t.Covers a b q.begun
      ∧ q.history = l.historyAt s q.begun := by
  obtain ⟨t, ht, rfl, ha0, hab⟩ := ofThreshold_eq_ok hrule ha hb
  obtain ⟨n, hfinish, rfl⟩ := (Loop.run_eq_finished_iff hf).mp hrun
  have hsmall : ∀ x, exactWithin x t = .ok true ↔ t.Covers x :=
    fun x => exactWithin_eq_true_iff x t
  exact ⟨t, ht, Loop.endedAtThreshold hf ha0 hab hsmall hl hfinish, rfl⟩

end StoppingRule

/-! ## Where a fit ends -/

namespace Trainer

/-- Where a fit stands that followed an accepted threshold and gives a model. -/
theorem fitFrom_endedAtThreshold [SpecialFunctions] {t : Trainer ℝ} (hf : 1 ≤ t.frequency)
    {tValue minimum : Value} {maximum : Option Value} {a : Int} {b : Option Int}
    (hrule : StoppingRule.ofThreshold tValue minimum maximum = .ok t.rule)
    (ha : minimum.number? = some (.int a))
    (hb : maximum.map Value.number? = b.map fun m => some (.int m)) {backend : Backend}
    {draw : Nat → ℝ} {c : Nat} {q : Progress t.Parameters ℝ}
    (hfit : t.fitFrom backend exactWithin draw c = .ok (q, .finished)) :
    ∃ s threshold, t.start? draw = .ok s ∧ tValue.comparable = .ok threshold
      ∧ (t.loop backend exactWithin).EndedAtThreshold s threshold.Covers a b q.begun
      ∧ q.history = (t.loop backend exactWithin).historyAt s q.begun := by
  obtain ⟨s, n, hs, hn, rfl⟩ := ((t.fitFrom_trace backend exactWithin draw hf c).1 q).mp hfit
  have hrun : (t.loop backend exactWithin).run s c
      = ((t.loop backend exactWithin).progressAt s c n, .finished) :=
    (Loop.run_eq_finished_iff hf).mpr ⟨n, hn, rfl⟩
  obtain ⟨threshold, hcomparable, hended, hhistory⟩ :=
    StoppingRule.exists_endedAtThreshold hrule ha hb hf (fun _ _ => rfl) hrun
  exact ⟨s, threshold, hs, hcomparable, hended, hhistory⟩

/-- A fit whose rule has a greatest number of iterations ends, and begins no more than these. -/
theorem fitFrom_ends {α : Type} [Scalar α] {t : Trainer α} (hf : 1 ≤ t.frequency)
    {within : α → Number → Except Failure Bool} {m : Int} (hrule : t.rule.Caps within m)
    (b : Backend) (draw : Nat → α) (c : Nat) {s : t.Parameters} (hs : t.start? draw = .ok s) :
    ∃ q e, t.fitFrom b within draw c = .ok (q, e) ∧ (q.begun : Int) ≤ m
      ∧ (t.loop b within).runFrom (Loop.begin s c) = some (q, e) := by
  obtain ⟨q, e, hrun, hq⟩ :=
    hrule.loops t.Parameters (t.loop b within) hf (fun _ _ => rfl) s c
  refine ⟨q, e, ?_, hq, hrun⟩
  rw [fitFrom_eq, hs]
  show Except.ok (((t.loop b within).runFrom (Loop.begin s c)).getD _) = _
  rw [hrun]
  rfl

end Trainer

namespace StoppingRule

/-- **Where training ends, and that it does.** Under a threshold between integers `a` and `b`, any
loop that finishes has done at least `a` and at most `b` iterations; unless these are `b`, the
change it was last shown was at the threshold or below, and no earlier one from `a` on was; and
past `a` that change is from an evaluation right behind the last iteration. With a greatest number
of iterations every loop ends, whatever the changes and however they compare, and a number of
iterations is kept exactly. Every rule of a settings section has a greatest number, the one named
there or a hundred. -/
theorem training_ends [SpecialFunctions] :
    (∀ (σ : Type) (l : Loop Id σ ℝ) (rule : StoppingRule ℝ) (tValue minimum : Value)
        (maximum : Option Value) (a : Int) (b : Option Int),
        ofThreshold tValue minimum maximum = .ok rule → minimum.number? = some (.int a) →
        (maximum.map Value.number? = b.map fun m => some (.int m)) →
        1 ≤ l.frequency → (∀ n x, l.answer n x = rule.stops exactWithin n x) →
        ∀ s c q, l.run s c = (q, .finished) →
          ∃ t, tValue.comparable = .ok t ∧ l.EndedAtThreshold s t.Covers a b q.begun
            ∧ q.history = l.historyAt s q.begun)
      ∧ ∀ (α : Type) [Scalar α] (within : α → Number → Except Failure Bool),
          (∀ x t, ∃ b, within x t = .ok b) → ∀ rule : StoppingRule α,
          (∀ (tValue minimum maximum : Value) (a m : Int),
              ofThreshold tValue minimum (some maximum) = .ok rule →
              minimum.number? = some (.int a) → maximum.number? = some (.int m) →
              rule.Caps within m)
            ∧ (∀ (count : Value) (i : Int), ofIterations count = .ok rule →
                count.number? = some (.int i) →
                rule.Caps within i ∧ ∀ x, rule.StopsAt within x i.toNat)
            ∧ ∀ s : Settings.Section, ofSection s = .ok rule →
                ∃ maximum, Setting.integer? (s.get "max_iterations") = .ok maximum
                  ∧ rule.Caps within (maximum.getD 100) := by
  constructor
  · intro σ l rule tValue minimum maximum a b hrule ha hb hf hl s c q hrun
    exact exists_endedAtThreshold hrule ha hb hf hl hrun
  · intro α _ within hwithin rule
    refine ⟨?_, ?_, fun s hrule => ofSection_caps hwithin hrule⟩
    · intro tValue minimum maximum a m hrule ha hm
      obtain ⟨t, -, rfl, ha0, hab⟩ := ofThreshold_eq_ok hrule ha (b := some m)
        (congrArg some hm)
      exact threshold_caps hwithin (le_trans ha0 (hab m rfl))
    · intro count i hrule hi
      obtain ⟨rfl, hi0⟩ := ofIterations_eq_ok hi hrule
      exact ⟨iterations_caps hi0, iterations_stopsAt hi0⟩

theorem relativeChange_self [SpecialFunctions] (x : ℝ) : relativeChange x x = 0 := by
  show (if Scalar.equal x Scalar.zero = true then |x - x| else |(x - x) / x|) = 0
  rw [sub_self, zero_div, abs_zero, ite_self]

/-- A loop with the same value always, evaluated at every other count, under a threshold of zero
between one and five iterations. -/
noncomputable def steady [SpecialFunctions] : Loop Id Unit ℝ where
  advance s := s
  check _ _ := .ok ()
  settle s := s
  evaluate _ := (Scalar.largest : ℝ)
  frequency := 2
  stops := (threshold (.int 0) (.int 1) (some (.int 5))).stops exactWithin

/-- The second evaluation would be the first not to change anything, but the first one already
repeats the number that a run starts from. -/
theorem training_ends_steady :
    letI : SpecialFunctions := .gamma
    steady.run () 0 = (steady.progressAt () 0 2, .finished)
      ∧ steady.EndedAtThreshold () (Number.int 0).Covers 1 (some 5) 2
      ∧ ∀ rule : StoppingRule Float, ofSection [("max_iterations", .int 7)] = .ok rule →
          ∃ maximum, Setting.integer? (.int 7) = .ok maximum
            ∧ rule.Caps changeWithin (maximum.getD 100) := by
  let _ : SpecialFunctions := .gamma
  have hf : 1 ≤ steady.frequency := by decide
  have hone : ¬ (Number.int 0).Covers (steady.changeAt () 1) := by
    show ¬ |((1 : Nat) : ℝ)| ≤ ((0 : Int) : Rat)
    norm_num
  have htwo : (Number.int 0).Covers (steady.changeAt () 2) := by
    have hprevious : 1 / steady.frequency = 0 := by decide
    have hzero : steady.changeAt () 2 = 0 := by
      rw [steady.changeAt_of_multiple () (by decide), hprevious]
      exact relativeChange_self Scalar.largest
    rw [hzero]
    show |(0 : ℝ)| ≤ ((0 : Int) : Rat)
    norm_num
  have hfinish : steady.FinishesAt () 2 := by
    refine ⟨fun j hj => ?_, ?_, fun _ _ => rfl, fun _ _ => rfl⟩
    · interval_cases j
      · rfl
      · exact (exactWithin_eq_false_iff _ _).mpr hone
    · exact (exactWithin_eq_true_iff _ _).mpr htwo
  have hrun : steady.run () 0 = (steady.progressAt () 0 2, .finished) :=
    (Loop.run_eq_finished_iff hf).mpr ⟨2, hfinish, rfl⟩
  have h := training_ends
  obtain ⟨t, ht, hended, -⟩ := h.1 Unit steady (threshold (.int 0) (.int 1) (some (.int 5)))
    (.int 0) (.int 1) (some (.int 5)) 1 (some 5) rfl rfl rfl hf (fun _ _ => rfl) () 0 _ hrun
  cases ht
  exact ⟨hrun, hended, fun rule hrule =>
    (h.2 Float changeWithin (fun _ _ => ⟨_, rfl⟩) rule).2.2 _ hrule⟩

end StoppingRule

end PoissonFactor
