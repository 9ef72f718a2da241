import PoissonFactor.Files.Tree
import PoissonFactor.Settings.Sections

/-!
# Loading a settings file

The whole file is read as text before its first line is looked at, so bytes that are
no text fail wherever they stand.
-/

namespace PoissonFactor.Settings

variable [Text.CharacterNames]

/-- The sections of a settings file. -/
def load (files : FileTree) (path : String) : Except Failure Document := do
  let bytes ← files.read (Path.ofString path)
  match Text.decode (bytes.map UInt8.toNat) with
  | (cs, none) => read cs
  | (_, some e) => .error (.undecodable e)

end PoissonFactor.Settings
