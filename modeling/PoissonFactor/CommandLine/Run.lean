import PoissonFactor.CommandLine.Options
import PoissonFactor.Pipeline.Configured
import PoissonFactor.Report.Save
import PoissonFactor.Settings.Defaults
import PoissonFactor.Settings.Load

/-!
# Training from the command line

The options name a rating file and may name a settings file; some of them take the
place of a setting. The report holds the numbers that sum up the fit and the settings
as they were used. It is saved if a file is named for it, and printed in any case.
-/

namespace PoissonFactor.CommandLine

variable [Text.CharacterNames]

/-- What a run leaves behind. -/
structure Outcome where
  fitted : Fitted Float
  report : Value
  files : FileTree

/-- An option that names a file. -/
def fileName (v : Value) : Except Failure String :=
  match v with
  | .str s => .ok s
  | .illformed t => .error (.unencodable t.surrogates)
  | v => .error (.notAPath v.kind)

/-- The settings file that the options name, or the default one. -/
def settings (files : FileTree) (o : Options) : Except Failure Settings.Document :=
  match o.value? .config with
  | none => Settings.read Settings.defaultText.toList
  | some v => do Settings.load files (← fileName v)

/-- A section with one setting replaced by an option, if that was given. -/
def replace (d : Settings.Document) (name key : String) (v : Option Value) : Settings.Document :=
  match v with
  | some v => Settings.put name (Settings.put key v (d.section name)) d
  | none => d

/-- The settings with the options in their places. -/
def override (o : Options) (d : Settings.Document) : Settings.Document :=
  let d := replace d "hpf" "k" (o.value? .k)
  let d := replace d "stopping" "max_iterations" (o.value? .maxIterations)
  let d := replace d "stopping" "threshold" (o.value? .threshold)
  replace d "train" "prob_prediction" ((o.value? .countLikelihood).map fun _ => .bool false)

/-- The plan of the settings, with the backend that the options name. -/
def plan (o : Options) (d : Settings.Document) : Except Failure Plan := do
  let plan ← Plan.ofDocument d
  match (o.value? .backend).filter Value.isTrue with
  | some v => return { plan with backend := v.text }
  | none => return plan

/-- Named values as a mapping. -/
def mapping (s : List (String × Value)) : Value :=
  .dict (s.map fun (name, v) => (.str name, v))

/-- The report of a run. -/
def report (p : Plan) (split : Settings.Section) (s : Summary Float) : Value :=
  mapping [("model", .str "hpf"), ("backend", .str p.backend), ("metrics", s.value),
    ("config", mapping [("hpf", mapping p.hpf), ("train", mapping p.train),
      ("stopping", mapping p.stopping), ("split", mapping split)])]

/-- Saves a report if a file is named for it. -/
def saveReport (files : FileTree) (o : Options) (v : Value) : Except Failure FileTree :=
  match (o.value? .out).filter Value.isTrue with
  | some path => do Report.save files (Path.ofString (← fileName path)) v
  | none => .ok files

/-- Trains with some options. -/
def train (files : FileTree) (o : Options) : Reporting Outcome := do
  let document := override o (← Reporting.silent (settings files o))
  let plan ← Reporting.silent (plan o document)
  let path ← Reporting.silent (fileName ((o.value? .dataPath).getD .null))
  let fitted ← plan.evaluateFile files path (o.value? .limit)
  let report := report plan (document.section "split") fitted.summary
  let files ← Reporting.silent (saveReport files o report)
  Reporting.say (← Reporting.silent (Json.text Json.oneLine report))
  return { fitted, report, files }

/-- Reads a command line and trains. -/
def run (files : FileTree) (words : List String) : Reporting Outcome := do
  train files (← Reporting.silent (Options.ofWords words))

end PoissonFactor.CommandLine
