import PoissonFactor.Failure

/-!
# Work that prints

A computation that may fail and that prints lines on its way. The lines printed
before a failure stay printed.
-/

namespace PoissonFactor

/-- A computation that prints lines and may fail. -/
abbrev Reporting := ExceptT Failure (StateM (List String))

namespace Reporting

/-- Prints one line. -/
def say (line : String) : Reporting Unit :=
  modify (· ++ [line])

/-- Prints lines. -/
def sayAll (lines : List String) : Reporting Unit :=
  modify (· ++ lines)

/-- A computation that prints nothing. -/
def silent {α : Type} : Except Failure α → Reporting α
  | .ok a => pure a
  | .error cause => throw cause

/-- The lines printed and how it ended. -/
def outcome {α : Type} (r : Reporting α) : Except Failure α × List String :=
  (r.run).run []

end Reporting

end PoissonFactor
