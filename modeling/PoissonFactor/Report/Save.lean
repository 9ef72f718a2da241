import PoissonFactor.Files.Tree
import PoissonFactor.Report.Json

/-!
# Saving a report

A value is saved as indented JSON. The folders above the file are made first.
-/

namespace PoissonFactor.Report

/-- Saves a value as a file. -/
def save (files : FileTree) (path : Path) (v : Value) : Except Failure FileTree := do
  let files ← files.makeParents path
  let files ← files.write path []
  let text ← Json.text Json.indented v
  files.write path text.toUTF8.toList

end PoissonFactor.Report
