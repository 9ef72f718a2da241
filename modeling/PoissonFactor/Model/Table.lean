/-!
# Rows and tables

A row is a vector and a table a vector of rows. A position that belongs to the size of a
row is inside, so reading the entry there asks for nothing more.
-/

namespace PoissonFactor

/-- The entry at a position of a row. -/
instance Row.instGetElem {α : Type} {n : Nat} :
    GetElem (Vector α n) (Fin n) α fun _ _ => True where
  getElem row i _ := getElem row i.val i.isLt

@[simp] theorem Row.getElem_val {α : Type} {n : Nat} (row : Vector α n) (i : Fin n) :
    row[i] = getElem row i.val i.isLt := rfl

/-- A table of `m` rows and `n` columns. -/
abbrev Table (α : Type) (m n : Nat) := Vector (Vector α n) m

/-- The table with an entry for every row and column. -/
def Table.ofFn {α : Type} {m n : Nat} (f : Fin m → Fin n → α) : Table α m n :=
  Vector.ofFn fun i => Vector.ofFn fun j => f i j

/-- The table with one entry everywhere. -/
def Table.constant {α : Type} {m n : Nat} (a : α) : Table α m n :=
  Table.ofFn fun _ _ => a

/-- The entries of a table, row by row. -/
def Table.entries {α : Type} {m n : Nat} (t : Table α m n) : List α :=
  t.toList.flatMap Vector.toList

end PoissonFactor
