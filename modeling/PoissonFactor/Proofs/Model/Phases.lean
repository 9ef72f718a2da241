import PoissonFactor.Model.Engine

/-!
# Phases in any order

The phases of a fit change a state one after the other. A fit takes them in a fixed
order (`fitPhases`), but each can also be taken alone; `Engine.performAll` takes any
finite sequence of them, so a statement about it speaks of every order at once.
-/

namespace PoissonFactor

/-- What changes a state. -/
inductive Phase where
  | count
  | renewUsers
  | renewItems
  | fixActivity
deriving DecidableEq, Repr

/-! ## The phases of a fit -/

/-- The phases of an iteration, `before` iterations having gone before. -/
def iterationPhases (before : Nat) : List Phase :=
  [.count, .renewUsers, .renewItems] ++ if before = 0 then [.fixActivity] else []

/-- The phases of the first `n` iterations. -/
def fitPhases (n : Nat) : List Phase :=
  (List.range n).flatMap iterationPhases

/-- One iteration more takes its phases behind all others. -/
theorem fitPhases_succ (n : Nat) : fitPhases (n + 1) = fitPhases n ++ iterationPhases n := by
  unfold fitPhases
  rw [List.range_succ, List.flatMap_append, List.flatMap_singleton]

/-! ## Taking phases -/

namespace Engine

variable {α : Type} {users items k : Nat}

/-- Takes one phase. -/
def perform (e : Engine α users items k) : Phase → State α users items k → State α users items k
  | .count => e.count
  | .renewUsers => e.renewUsers
  | .renewItems => e.renewItems
  | .fixActivity => e.fixActivity

/-- Takes a sequence of phases, the first of the list first. -/
def performAll (e : Engine α users items k) (phases : List Phase) (s : State α users items k) :
    State α users items k :=
  phases.foldl (fun s x => e.perform x s) s

/-- Phases in a row can be taken in two parts. -/
theorem performAll_append (e : Engine α users items k) (xs ys : List Phase)
    (s : State α users items k) :
    e.performAll (xs ++ ys) s = e.performAll ys (e.performAll xs s) :=
  List.foldl_append

theorem performAll_concat (e : Engine α users items k) (xs : List Phase) (x : Phase)
    (s : State α users items k) :
    e.performAll (xs ++ [x]) s = e.perform x (e.performAll xs s) :=
  performAll_append e xs [x] s

/-- What every phase of a sequence keeps, the sequence keeps. -/
theorem performAll_keeps (e : Engine α users items k) (P : State α users items k → Prop)
    {phases : List Phase} (hstep : ∀ x ∈ phases, ∀ s, P s → P (e.perform x s))
    {s : State α users items k} (h : P s) : P (e.performAll phases s) := by
  induction phases generalizing s with
  | nil => exact h
  | cons x rest ih =>
    exact ih (fun y hy => hstep y (List.mem_cons_of_mem x hy)) (hstep x List.mem_cons_self s h)

end Engine

end PoissonFactor
