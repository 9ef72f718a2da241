import PoissonFactor.Settings.Sections

/-!
# Reading back what a section holds

A setting that was put into a section is the one found there, and no other setting changes
(`Settings.lookup_put`); without its name it is absent (`Settings.Section.get_without`).
-/

namespace PoissonFactor.Settings

variable {α : Type}

/-- The first pair with a key decides. -/
theorem lookup_cons_ite (name key : String) (a : α) (xs : List (String × α)) :
    ((name, a) :: xs).lookup key = if key = name then some a else xs.lookup key := by
  rw [List.lookup_cons]
  by_cases h : key = name
  · rw [if_pos h, beq_iff_eq.mpr h]
  · rw [if_neg h, beq_false_of_ne h]

/-- What was put under a key is found there, and every other key keeps what it had. -/
theorem lookup_put (name key : String) (a : α) (xs : List (String × α)) :
    (put name a xs).lookup key = if key = name then some a else xs.lookup key := by
  induction xs with
  | nil => exact lookup_cons_ite name key a []
  | cons x xs ih =>
    obtain ⟨n, b⟩ := x
    unfold put
    by_cases hn : n = name
    · rw [if_pos hn, lookup_cons_ite, lookup_cons_ite, hn]
      by_cases h : key = name
      · rw [if_pos h, if_pos h]
      · rw [if_neg h, if_neg h, if_neg h]
    · rw [if_neg hn, lookup_cons_ite, lookup_cons_ite, ih]
      by_cases h : key = n
      · rw [if_pos h, if_pos h, if_neg (h ▸ hn)]
      · rw [if_neg h, if_neg h]

/-- A name that is new comes last. -/
theorem put_of_not_mem {name : String} {xs : List (String × α)} (h : name ∉ xs.map Prod.fst)
    (a : α) : put name a xs = xs ++ [(name, a)] := by
  induction xs with
  | nil => rfl
  | cons x xs ih =>
    obtain ⟨n, b⟩ := x
    obtain ⟨hn, hrest⟩ := not_or.mp (mt List.mem_cons.mpr h)
    unfold put
    rw [if_neg (Ne.symm hn), ih hrest, List.cons_append]

/-- The last of several names keeps its place. -/
theorem put_concat {name : String} {xs : List (String × α)} (h : name ∉ xs.map Prod.fst)
    (a b : α) : put name b (xs ++ [(name, a)]) = xs ++ [(name, b)] := by
  induction xs with
  | nil => exact if_pos rfl
  | cons x xs ih =>
    obtain ⟨n, c⟩ := x
    obtain ⟨hn, hrest⟩ := not_or.mp (mt List.mem_cons.mpr h)
    rw [List.cons_append, put, if_neg (Ne.symm hn), ih hrest, List.cons_append]

namespace Section

/-- A section with the settings of one name left out. -/
def without (name : String) (s : Section) : Section :=
  s.filter fun e => e.1 ≠ name

/-- The same for the settings of a section. -/
theorem get_put (name key : String) (v : Value) (s : Section) :
    Section.get (put name v s) key = if key = name then v else s.get key := by
  unfold Section.get
  rw [lookup_put]
  split
  · rfl
  · rfl

/-- A section without a key has nothing under it, and the rest as before. -/
theorem get_without (name key : String) (s : Section) :
    (s.without name).get key = if key = name then .null else s.get key := by
  unfold Section.get without
  induction s with
  | nil => exact (ite_self _).symm
  | cons e s ih =>
    obtain ⟨n, v⟩ := e
    by_cases hn : n = name
    · rw [List.filter_cons_of_neg (by simpa using hn), ih, lookup_cons_ite]
      by_cases h : key = name
      · rw [if_pos h, if_pos h]
      · rw [if_neg h, if_neg h, if_neg (hn ▸ h)]
    · rw [List.filter_cons_of_pos (by simpa using hn), lookup_cons_ite, lookup_cons_ite]
      by_cases h : key = n
      · rw [if_pos h, if_pos h, if_neg (h ▸ hn)]
      · rw [if_neg h, if_neg h, ih]

end Section

end PoissonFactor.Settings
