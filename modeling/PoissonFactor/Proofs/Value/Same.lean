import PoissonFactor.Proofs.Value.Ranking

/-!
# Equal keys and keys of one type

Being the same key is symmetric and transitive across all types of keys:

> `Value.same_symm` and `Value.same_trans`.

It is reflexive for every key but one that holds what is no number. Texts have a common order
and so have numbers, whatever their types:

> `Value.OneType.orderable`: of two texts, or of two numbers, one comes before the other unless
> they are the same key.
-/

namespace PoissonFactor

/-! ## Numbers -/

namespace Extended

/-- Only what is no number differs from itself. -/
theorem eq_iff {a b : Extended} : a.eq b = true ↔ a = b ∧ a ≠ .nan := by
  cases a <;> cases b <;> simp [eq]

theorem eq_symm {a b : Extended} (h : a.eq b = true) : b.eq a = true := by
  obtain ⟨rfl, ha⟩ := eq_iff.mp h
  exact eq_iff.mpr ⟨rfl, ha⟩

theorem eq_trans {a b c : Extended} (hab : a.eq b = true) (hbc : b.eq c = true) :
    a.eq c = true := by
  obtain ⟨rfl, -⟩ := eq_iff.mp hab
  exact hbc

/-- Two numbers are equal or have an order. -/
theorem trichotomy {a b : Extended} (ha : a ≠ .nan) (hb : b ≠ .nan) :
    a.eq b = true ∨ a.lt b = true ∨ b.lt a = true := by
  cases a <;> cases b
  case finite.finite r s =>
    rcases lt_trichotomy r s with h | h | h
    · exact Or.inr (Or.inl (decide_eq_true h))
    · exact Or.inl (decide_eq_true h)
    · exact Or.inr (Or.inr (decide_eq_true h))
  all_goals simp_all [eq, lt]

end Extended

namespace Value

/-! ## The same key -/

/-- Nothing else is the same key. -/
theorem same_eq_false {a b : Value} (hnull : a = .null → b = .null → False)
    (hellipsis : a = .ellipsis → b = .ellipsis → False)
    (htext : ∀ s t, a = .str s → b = .str t → False)
    (hillformed : ∀ s t, a = .illformed s → b = .illformed t → False)
    (hbytes : ∀ s t, a = .bytes s → b = .bytes t → False)
    (htuple : ∀ as bs, a = .tuple as → b = .tuple bs → False)
    (hparts : ∀ x y x' y', a.parts? = some (x, y) → b.parts? = some (x', y') → False) :
    same a b = false := by
  unfold same
  split
  · exact (hnull rfl rfl).elim
  · exact (hellipsis rfl rfl).elim
  · exact (htext _ _ rfl rfl).elim
  · exact (hillformed _ _ rfl rfl).elim
  · exact (hbytes _ _ rfl rfl).elim
  · exact (htuple _ _ rfl rfl).elim
  · split
    · rename_i ha hb
      exact (hparts _ _ _ _ ha hb).elim
    · rfl

/-- What is the same key as a number has parts too, and they are equal. -/
theorem parts_of_same {a b : Value} {x y : Number} (ha : a.parts? = some (x, y))
    (h : same a b = true) :
    ∃ x' y', b.parts? = some (x', y') ∧ x.eq x' = true ∧ y.eq y' = true := by
  cases hb : b.parts? with
  | some p =>
    rw [same_of_parts ha hb, Bool.and_eq_true] at h
    exact ⟨p.1, p.2, rfl, h⟩
  | none =>
    have hfalse : same a b = false := by
      apply same_eq_false
      case hparts =>
        intro _ _ _ _ _ hsome
        rw [hb] at hsome
        cases hsome
      all_goals
        intros
        subst a
        cases ha
    rw [hfalse] at h
    cases h

/-- A tuple is the same key as another only. -/
theorem tuple_of_same {as : List Value} {b : Value} (h : same (.tuple as) b = true) :
    ∃ bs, b = .tuple bs ∧ sameItems as bs = true := by
  cases b with
  | tuple bs => exact ⟨bs, rfl, h⟩
  | _ => cases h

theorem same_and_sameItems_symm :
    (∀ a b : Value, same a b = true → same b a = true)
      ∧ ∀ as bs : List Value, sameItems as bs = true → sameItems bs as = true := by
  -- Tuples hold keys, so keys and lists of keys are taken at once, by the cases of `same`.
  refine Value.same.mutual_induct _ _ ?null ?ellipsis ?text ?illformed ?bytes ?tuple ?number ?other
    ?nil ?cons ?lengths
  case null => exact id
  case ellipsis => exact id
  case text =>
    intro s t h
    rw [same, beq_iff_eq] at *
    exact h.symm
  case illformed =>
    intro s t h
    rw [same, beq_iff_eq] at *
    exact h.symm
  case bytes =>
    intro s t h
    rw [same, beq_iff_eq] at *
    exact h.symm
  case tuple =>
    intro as bs ih h
    rw [same] at *
    exact ih h
  case number =>
    intro a b _ _ _ _ _ _ x y x' y' hb ha h
    rw [same_of_parts ha hb, Bool.and_eq_true] at h
    rw [same_of_parts hb ha, Bool.and_eq_true]
    exact ⟨Extended.eq_symm h.1, Extended.eq_symm h.2⟩
  case other =>
    intro a b hnull hellipsis htext hillformed hbytes htuple hparts h
    rw [same_eq_false hnull hellipsis htext hillformed hbytes htuple
      fun x y x' y' ha hb => hparts x y x' y' ha hb] at h
    cases h
  case nil => exact id
  case cons =>
    intro a as b bs iha ihas h
    rw [sameItems, Bool.and_eq_true] at *
    exact ⟨iha h.1, ihas h.2⟩
  case lengths =>
    intro as bs hnil hcons h
    cases as <;> cases bs <;> simp_all [sameItems]

/-- Being the same key is symmetric. -/
theorem same_symm {a b : Value} (h : same a b = true) : same b a = true :=
  same_and_sameItems_symm.1 a b h

theorem same_and_sameItems_trans :
    (∀ a b : Value, same a b = true → ∀ c, same b c = true → same a c = true)
      ∧ ∀ as bs : List Value, sameItems as bs = true →
        ∀ cs, sameItems bs cs = true → sameItems as cs = true := by
  refine Value.same.mutual_induct _ _ ?null ?ellipsis ?text ?illformed ?bytes ?tuple ?number ?other
    ?nil ?cons ?lengths
  case null => exact fun _ _ h => h
  case ellipsis => exact fun _ _ h => h
  case text =>
    intro s t hst c h
    rw [same, beq_iff_eq] at hst
    rw [hst]
    exact h
  case illformed =>
    intro s t hst c h
    rw [same, beq_iff_eq] at hst
    rw [hst]
    exact h
  case bytes =>
    intro s t hst c h
    rw [same, beq_iff_eq] at hst
    rw [hst]
    exact h
  case tuple =>
    intro as bs ih hab c h
    obtain ⟨cs, rfl, hcs⟩ := tuple_of_same h
    rw [same] at *
    exact ih hab cs hcs
  case number =>
    intro a b _ _ _ _ _ _ x y x' y' hb ha hab c h
    -- The first two are compared by their parts, and so the third has parts as well.
    obtain ⟨x'', y'', hc, hx, hy⟩ := parts_of_same hb h
    rw [same_of_parts ha hb, Bool.and_eq_true] at hab
    rw [same_of_parts ha hc, Bool.and_eq_true]
    exact ⟨Extended.eq_trans hab.1 hx, Extended.eq_trans hab.2 hy⟩
  case other =>
    intro a b hnull hellipsis htext hillformed hbytes htuple hparts hab
    rw [same_eq_false hnull hellipsis htext hillformed hbytes htuple
      fun x y x' y' ha hb => hparts x y x' y' ha hb] at hab
    cases hab
  case nil => exact fun _ _ h => h
  case cons =>
    intro a as b bs iha ihas hab cs h
    cases cs with
    | nil => cases h
    | cons c cs =>
      rw [sameItems, Bool.and_eq_true] at *
      exact ⟨iha hab.1 c h.1, ihas hab.2 cs h.2⟩
  case lengths =>
    intro as bs hnil hcons hab
    cases as <;> cases bs <;> simp_all [sameItems]

/-- Being the same key is transitive. -/
theorem same_trans {a b c : Value} (hab : same a b = true) (hbc : same b c = true) :
    same a c = true :=
  same_and_sameItems_trans.1 a b hab c hbc

/-- Equal keys are the same key as the same others. -/
theorem same_congr_left {a b : Value} (h : same a b = true) (c : Value) : same a c = same b c := by
  rw [Bool.eq_iff_iff]
  exact ⟨fun hac => same_trans (same_symm h) hac, fun hbc => same_trans h hbc⟩

/-! ## Keys of one type -/

/-- Texts only, or numbers of any type only, what is no number left out. -/
def OneType (vs : List Value) : Prop :=
  (∀ v ∈ vs, ∃ ps, v.points? = some ps) ∨ ∀ v ∈ vs, ∃ n, v.number? = some n ∧ n.exact ≠ .nan

theorem mutablePart_of_number {v : Value} {n : Number} (h : v.number? = some n) :
    v.mutablePart? = none := by
  cases v <;> cases h <;> rfl

theorem mutablePart_of_points {v : Value} {ps : List Text.Point} (h : v.points? = some ps) :
    v.mutablePart? = none := by
  cases v with
  | str s => rfl
  | illformed t => rfl
  | _ => cases h

/-- A text is the same key as itself. -/
theorem same_self_of_points {v : Value} {ps : List Text.Point} (h : v.points? = some ps) :
    same v v = true := by
  cases v with
  | str s => exact beq_self_eq_true s
  | illformed t => exact beq_self_eq_true t
  | _ => cases h

/-- Two texts are the same or have an order. -/
theorem trichotomy_of_points {a b : Value} {ps qs : List Text.Point} (ha : a.points? = some ps)
    (hb : b.points? = some qs) : a.same b = true ∨ a.before b = true ∨ b.before a = true := by
  rw [before_of_points ha hb, before_of_points hb ha, decide_eq_true_iff, decide_eq_true_iff]
  rcases lt_trichotomy ps qs with h | h | h
  · exact Or.inr (Or.inl h)
  · have heq : a = b := by
      rw [← ofPoints_of_points? ha, ← ofPoints_of_points? hb, h]
    rw [heq]
    exact Or.inl (same_self_of_points hb)
  · exact Or.inr (Or.inr h)

/-- Keys of one type have a common order. -/
theorem OneType.orderable {vs : List Value} (h : OneType vs) : Orderable vs := by
  rcases h with htexts | hnumbers
  · refine ⟨fun a ha => ?_, fun a ha b hb => ?_⟩
    · obtain ⟨ps, hps⟩ := htexts a ha
      exact mutablePart_of_points hps
    · obtain ⟨ps, hps⟩ := htexts a ha
      obtain ⟨qs, hqs⟩ := htexts b hb
      exact trichotomy_of_points hps hqs
  · refine ⟨fun a ha => ?_, fun a ha b hb => ?_⟩
    · obtain ⟨n, hn, -⟩ := hnumbers a ha
      exact mutablePart_of_number hn
    · obtain ⟨m, hm, hmnan⟩ := hnumbers a ha
      obtain ⟨n, hn, hnnan⟩ := hnumbers b hb
      have hzero : (Number.int 0).eq (.int 0) = true := rfl
      rw [same_of_parts (parts_of_number hm) (parts_of_number hn), hzero, Bool.and_true,
        before_of_number hm hn, before_of_number hn hm]
      exact Extended.trichotomy hmnan hnnan

end Value

end PoissonFactor
