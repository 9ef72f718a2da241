import PoissonFactor.Settings.Coercion
import PoissonFactor.Settings.Sections

/-!
# Settings of a training run

The priors with the number of features, and the run's own settings. Both are first
collected as values of any type, each with its default, and then checked: the
checks stop at the first fault in declaration order. What passes is typed, so the
trainer never meets a prior that is not positive or a frequency of zero.
-/

namespace PoissonFactor

/-- The six prior parameters: shape, activity shape and activity rate of the users, and the
same of the items. -/
structure Priors (α : Type) where
  a : α
  aPrime : α
  bPrime : α
  c : α
  cPrime : α
  dPrime : α
deriving DecidableEq

namespace Priors

/-- The priors with the names they have in settings and messages. -/
def named {α : Type} (p : Priors α) : List (String × α) :=
  [("a", p.a), ("a_prime", p.aPrime), ("b_prime", p.bPrime), ("c", p.c), ("c_prime", p.cPrime),
    ("d_prime", p.dPrime)]

/-- Applies a function that may fail to every prior, in order. -/
def mapM {α β : Type} (f : String → α → Except Failure β) (p : Priors α) :
    Except Failure (Priors β) := do
  let a ← f "a" p.a
  let aPrime ← f "a_prime" p.aPrime
  let bPrime ← f "b_prime" p.bPrime
  let c ← f "c" p.c
  let cPrime ← f "c_prime" p.cPrime
  let dPrime ← f "d_prime" p.dPrime
  return { a, aPrime, bPrime, c, cPrime, dPrime }

end Priors

/-- The priors and the number of features as they were given. -/
structure HyperSettings where
  priors : Priors Value :=
    { a := .float 0.3, aPrime := .float 0.3, bPrime := .float 1, c := .float 0.3,
      cPrime := .float 0.3, dPrime := .float 1 }
  featureCount : Value := .int 10

/-- Checked priors and number of features. -/
structure Hyper where
  priors : Priors Number
  featureCount : Nat
  one_le_featureCount : 1 ≤ featureCount

namespace HyperSettings

/-- The name of this group of settings in messages. -/
def group : String := "PFHyperParameters"

/-- Changes one setting by its name. -/
def set (s : HyperSettings) (name : String) (v : Value) : Except Failure HyperSettings :=
  if name = "a" then .ok { s with priors.a := v }
  else if name = "a_prime" then .ok { s with priors.aPrime := v }
  else if name = "b_prime" then .ok { s with priors.bPrime := v }
  else if name = "c" then .ok { s with priors.c := v }
  else if name = "c_prime" then .ok { s with priors.cPrime := v }
  else if name = "d_prime" then .ok { s with priors.dPrime := v }
  else if name = "feature_count" then .ok { s with featureCount := v }
  else .error (.unexpectedSetting group name)

/-- The defaults with some settings changed. -/
def ofNamed (settings : List (String × Value)) : Except Failure HyperSettings :=
  settings.foldlM (fun s (name, v) => s.set name v) {}

/-- The priors and the number of features of a settings section. -/
def ofSection (s : Settings.Section) : Except Failure HyperSettings := do
  let a ← Setting.decimal (s.get "a") 0.3
  let aPrime ← Setting.decimal (s.get "a_prime") 0.3
  let bPrime ← Setting.decimal (s.get "b_prime") 1
  let c ← Setting.decimal (s.get "c") 0.3
  let cPrime ← Setting.decimal (s.get "c_prime") 0.3
  let dPrime ← Setting.decimal (s.get "d_prime") 1
  let k ← Setting.integer (s.get "k") 10
  return { priors := { a := .float a, aPrime := .float aPrime, bPrime := .float bPrime,
                       c := .float c, cPrime := .float cPrime, dPrime := .float dPrime },
           featureCount := .int k }

/-- All settings by name. -/
def fields (s : HyperSettings) : List (String × Value) :=
  s.priors.named ++ [("feature_count", s.featureCount)]

/-- A prior has to be a number above zero. -/
def checkPrior (name : String) (v : Value) : Except Failure Number := do
  let n ← v.comparable
  if (Number.int 0).lt n then return n else .error (.priorNotPositive name v.shown)

/-- Checks the priors in order and then the number of features. -/
def check (s : HyperSettings) : Except Failure Hyper := do
  let priors ← s.priors.mapM checkPrior
  match s.featureCount.integer? with
  | none => .error .featureCountNotInteger
  | some k =>
    if h : 1 ≤ k then return { priors, featureCount := k.toNat, one_le_featureCount := by omega }
    else .error (.featureCountTooSmall k)

end HyperSettings

namespace Hyper

/-- The activity shape of every user: `a' + K · a`. -/
def kappaShape (h : Hyper) : Except Failure Number := do
  h.priors.aPrime.add (← (Number.int h.featureCount).mul h.priors.a)

/-- The activity shape of every item: `c' + K · c`. -/
def tauShape (h : Hyper) : Except Failure Number := do
  h.priors.cPrime.add (← (Number.int h.featureCount).mul h.priors.c)

end Hyper

/-- The settings of a run as they were given. -/
structure RunSettings where
  /-- Every how many iterations the likelihood is evaluated. -/
  frequency : Value := .int 10
  seed : Value := .int 0
  offsetShape : Value := .float 0.1
  offsetRate : Value := .float 0.1
  /-- Whether a rating counts only as a hit or a miss when the likelihood is evaluated. -/
  hits : Value := .bool true
  verbose : Value := .bool false

/-- Checked settings of a run. -/
structure Run where
  frequency : Nat
  one_le_frequency : 1 ≤ frequency
  seed : Int
  offsetShape : Number
  offsetRate : Number
  hits : Bool
  verbose : Bool

namespace RunSettings

/-- The name of this group of settings in messages. -/
def group : String := "HPFConfig"

/-- Changes one setting by its name. -/
def set (s : RunSettings) (name : String) (v : Value) : Except Failure RunSettings :=
  if name = "iteration_frequency" then .ok { s with frequency := v }
  else if name = "seed" then .ok { s with seed := v }
  else if name = "max_offset_shape" then .ok { s with offsetShape := v }
  else if name = "max_offset_rate" then .ok { s with offsetRate := v }
  else if name = "prob_prediction" then .ok { s with hits := v }
  else if name = "verbose" then .ok { s with verbose := v }
  else .error (.unexpectedSetting group name)

/-- The defaults with some settings changed. -/
def ofNamed (settings : List (String × Value)) : Except Failure RunSettings :=
  settings.foldlM (fun s (name, v) => s.set name v) {}

/-- The settings of a run from a settings section. -/
def ofSection (s : Settings.Section) : Except Failure RunSettings := do
  let frequency ← Setting.integer (s.get "iteration_frequency") 10
  let seed ← Setting.integer (s.get "seed") 0
  let offsetShape ← Setting.decimal (s.get "max_offset_shape") 0.1
  let offsetRate ← Setting.decimal (s.get "max_offset_rate") 0.1
  return { frequency := .int frequency, seed := .int seed, offsetShape := .float offsetShape,
           offsetRate := .float offsetRate, hits := .bool (Setting.flag (s.get "prob_prediction") true),
           verbose := .bool (Setting.flag (s.get "verbose") false) }

/-- All settings by name. -/
def fields (s : RunSettings) : List (String × Value) :=
  [("iteration_frequency", s.frequency), ("seed", s.seed), ("max_offset_shape", s.offsetShape),
    ("max_offset_rate", s.offsetRate), ("prob_prediction", s.hits), ("verbose", s.verbose)]

/-- An offset has to be a number that is not negative. -/
def checkOffset (v : Value) : Except Failure Number := do
  let n ← v.comparable
  if n.lt (.int 0) then .error .offsetsNegative else return n

/-- Checks the settings in order. -/
def check (s : RunSettings) : Except Failure Run := do
  match s.frequency.integer? with
  | none => .error .frequencyInvalid
  | some f =>
    if h : 1 ≤ f then
      match s.seed.integer? with
      | none => .error (.seedNotInteger s.seed.shown)
      | some seed =>
        let offsetShape ← checkOffset s.offsetShape
        let offsetRate ← checkOffset s.offsetRate
        return { frequency := f.toNat, one_le_frequency := by omega, seed, offsetShape, offsetRate,
                 hits := s.hits.isTrue, verbose := s.verbose.isTrue }
    else .error .frequencyInvalid

end RunSettings

end PoissonFactor
