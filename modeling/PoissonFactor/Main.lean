import PoissonFactor.CommandLine.Run

/-!
# The command line

Reads the files that the options name, trains, prints what is reported and writes the
report. Everything else happens in the library, on a tree that holds those files.
-/

namespace PoissonFactor.CommandLine

/-- The program knows the names of the table. -/
instance : Text.CharacterNames :=
  .tabulated

/-- The text of an option that names a file. -/
def named? (o : Options) (name : OptionName) : Option String :=
  match o.value? name with
  | some (.str s) => if s.isEmpty then none else some s
  | _ => none

/-- The places that a path leads through, the last one first. -/
def places (p : Path) : List (List (List Char)) :=
  p.place.foldl (fun ps n => Path.step (ps.headD []) n :: ps) []

/-- A tree with one more file, if it can be read. -/
def addFile (t : FileTree) (name : String) : IO FileTree := do
  try
    let bytes ← IO.FS.readBinFile name
    let ps := places (Path.ofString name)
    return { files := (ps.headD [], bytes.toList) :: t.files, folders := ps.drop 1 ++ t.folders }
  catch _ => return t

/-- A tree of the files that the options name. -/
def snapshot (o : Options) : IO FileTree :=
  ([OptionName.dataPath, .config].filterMap (named? o)).foldlM addFile { files := [], folders := [] }

/-- Writes the report to the file that the options name. -/
def writeReport (o : Options) (files : FileTree) : IO Unit := do
  match named? o .out with
  | none => return
  | some name =>
    let path := Path.ofString name
    match files.read path with
    | .ok bytes =>
      IO.FS.createDirAll path.parent.text
      IO.FS.writeBinFile path.text ⟨bytes.toArray⟩
    | .error _ => return

/-- What is said about the options. -/
def usage : String :=
  "options: --data_path FILE [--config FILE] [--k N] [--max_iterations N] [--threshold X] "
    ++ "[--backend numpy|torch] [--prefer_gpu] [--count_likelihood] [--limit N] [--out FILE]"

/-- Trains with some options; the result is the exit code. -/
def trainAndWrite (o : Options) : IO UInt32 := do
  let (result, lines) := (train (← snapshot o) o).outcome
  for line in lines do
    IO.println line
  match result with
  | .ok outcome =>
    writeReport o outcome.files
    return 0
  | .error cause =>
    IO.eprintln cause.message
    return 1

end PoissonFactor.CommandLine

open PoissonFactor CommandLine in
/-- The program. -/
def main (args : List String) : IO UInt32 := do
  match Options.ofWords args with
  | .ok o => trainAndWrite o
  | .error (.exit code) =>
    IO.eprintln usage
    return UInt32.ofNat code
  | .error cause =>
    IO.eprintln cause.message
    return 1
