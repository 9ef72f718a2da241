import PoissonFactor.Model.Columns
import PoissonFactor.Model.Rows

/-!
# The two arrangements of an iteration

An `Engine` is a way to carry out the phases of a fit. There are two, one that goes
rating by rating and one that works on the ratings in columns; a backend names which to
use.
-/

namespace PoissonFactor

/-- A way to carry out the phases of a fit. -/
structure Engine (α : Type) (users items k : Nat) where
  count : State α users items k → State α users items k
  renewUsers : State α users items k → State α users items k
  renewItems : State α users items k → State α users items k
  fixActivity : State α users items k → State α users items k
  check : String → State α users items k → Except Failure Unit
  averageLogLikelihood : State α users items k → α
  means : State α users items k → Table α users k × Table α items k

section

variable {α : Type} [Scalar α] {users items k : Nat} (p : Problem α users items)

/-- The phases rating by rating. -/
def Rows.engine : Engine α users items k where
  count := Rows.count p
  renewUsers := Rows.renewUsers p
  renewItems := Rows.renewItems p
  fixActivity := Rows.fixActivity p
  check := State.check
  averageLogLikelihood := Rows.averageLogLikelihood p
  means s := (s.users.means, s.items.means)

/-- The phases column by column, on the columns of both parts of the ratings. -/
def Columns.engine (train : Columns.Layout p.train) (validation : Columns.Layout p.validation) :
    Engine α users items k where
  count := Columns.count train.batch
  renewUsers := Columns.renewUsers p
  renewItems := Columns.renewItems p
  fixActivity := Columns.fixActivity p
  check := Columns.check
  averageLogLikelihood := Columns.averageLogLikelihood p.hits validation.batch
  means s := (Columns.means s.users, Columns.means s.items)

end

/-- The two backends. -/
inductive Backend where
  | rows
  | columns
deriving DecidableEq, Repr

namespace Backend

/-- The backend with this name. -/
def ofName (name : String) : Except Failure Backend :=
  if name = "numpy" then .ok .rows
  else if name = "torch" then .ok .columns
  else .error (.unknownBackend name)

/-- What stands in front of every progress line. -/
def tag : Backend → String
  | .rows => "[hpf]"
  | .columns => "[hpf:torch]"

variable {α : Type} [Scalar α] {users items k : Nat}

/-- How a backend carries out the phases of a fit. -/
def engine (b : Backend) (p : Problem α users items) : Engine α users items k :=
  match b with
  | .rows => Rows.engine p
  | .columns => Columns.engine p (.of p.train) (.of p.validation)

end Backend

namespace Engine

variable {α : Type} {users items k : Nat}

/-- One iteration: the ratings are counted, then users and items renewed. -/
def iterate (e : Engine α users items k) (s : State α users items k) : State α users items k :=
  e.renewItems (e.renewUsers (e.count s))

end Engine

end PoissonFactor
