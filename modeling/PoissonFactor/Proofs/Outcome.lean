import Mathlib.Data.List.OfFn
import PoissonFactor.Failure

/-!
# What it takes to succeed

A computation that may fail succeeds exactly when each of its parts does; these lemmas
take it apart into its parts, so that no proof has to open a `do` block.
-/

namespace PoissonFactor

variable {α β : Type}

/-- One thing after the other succeeds when both do. -/
theorem bind_eq_ok_iff {x : Except Failure α} {f : α → Except Failure β} {b : β} :
    (x >>= f) = .ok b ↔ ∃ a, x = .ok a ∧ f a = .ok b := by
  cases x with
  | error cause =>
    constructor
    · intro h
      cases h
    · rintro ⟨a, h, -⟩
      cases h
  | ok a =>
    constructor
    · intro h
      exact ⟨a, rfl, h⟩
    · rintro ⟨a', h, hf⟩
      cases h
      exact hf

/-- The same thing done to every entry of a list succeeds when it does for each of them. -/
theorem mapM_ofFn_eq_ok_iff {n : Nat} {f : α → Except Failure β} {g : Fin n → α} {ys : List β} :
    (List.ofFn g).mapM f = .ok ys
      ↔ ∃ h : Fin n → β, ys = List.ofFn h ∧ ∀ i, f (g i) = .ok (h i) := by
  induction n generalizing ys with
  | zero =>
    rw [List.ofFn_zero, List.mapM_nil]
    constructor
    · intro h
      cases h
      exact ⟨Fin.elim0, (List.ofFn_zero).symm, fun i => i.elim0⟩
    · rintro ⟨h, rfl, -⟩
      rw [List.ofFn_zero]
      rfl
  | succ n ih =>
    rw [List.ofFn_succ, List.mapM_cons, bind_eq_ok_iff]
    constructor
    · rintro ⟨y, hy, hrest⟩
      obtain ⟨rest, hmap, hpure⟩ := bind_eq_ok_iff.mp hrest
      obtain ⟨h, rfl, hh⟩ := ih.mp hmap
      cases hpure
      exact ⟨Fin.cons y h, by rw [List.ofFn_cons], Fin.cases hy hh⟩
    · rintro ⟨h, rfl, hh⟩
      refine ⟨h 0, hh 0, bind_eq_ok_iff.mpr ⟨List.ofFn fun i => h i.succ, ?_, ?_⟩⟩
      · exact ih.mpr ⟨_, rfl, fun i => hh i.succ⟩
      · rw [List.ofFn_succ]
        rfl

/-- What succeeds for every entry of a list succeeds for the list. -/
theorem mapM_eq_map {f : α → Except Failure β} {g : α → β} {xs : List α}
    (h : ∀ x ∈ xs, f x = .ok (g x)) : xs.mapM f = .ok (xs.map g) := by
  induction xs with
  | nil => rfl
  | cons x xs ih =>
    have hrest := ih fun y hy => h y (List.mem_cons_of_mem x hy)
    rw [List.mapM_cons]
    exact bind_eq_ok_iff.mpr
      ⟨g x, h x List.mem_cons_self, bind_eq_ok_iff.mpr ⟨xs.map g, hrest, rfl⟩⟩

/-- What changes no entry of a list leaves the list as it is. -/
theorem mapM_eq_self {f : α → Except Failure α} {xs : List α} (h : ∀ x ∈ xs, f x = .ok x) :
    xs.mapM f = .ok xs := by
  have hmap := mapM_eq_map h
  rwa [List.map_id'] at hmap

/-- What is in the second of two lists that are related entry by entry stands for something in the
first. -/
theorem exists_of_forall₂ {r : α → β → Prop} {as : List α} {bs : List β}
    (h : List.Forall₂ r as bs) {b : β} (hb : b ∈ bs) : ∃ a ∈ as, r a b := by
  induction h with
  | nil => cases hb
  | @cons a b' as bs hr _ ih =>
    rcases List.mem_cons.mp hb with rfl | hb
    · exact ⟨a, List.mem_cons_self, hr⟩
    · obtain ⟨a', ha', hr'⟩ := ih hb
      exact ⟨a', List.mem_cons_of_mem a ha', hr'⟩

end PoissonFactor
