import PoissonFactor.MovieLens.Download
import PoissonFactor.Pipeline.Configured
import PoissonFactor.Settings.Load

/-!
# A run on the MovieLens ratings

The small edition is downloaded once and kept as a table; later runs read that table,
with identifiers as texts. The settings come from a file at a fixed place.
-/

namespace PoissonFactor.MovieLens

variable [Text.CharacterNames] [TableLibrary] [WebClient]

/-- Where the table of ratings is kept. -/
def tablePath : String := "poissonrec/data/movielens_latest_small.csv"

/-- Where the settings are. -/
def settingsPath : String := "poissonrec/configs/base.yaml"

/-- What a run leaves behind, however it ends: its files, and the requests that were made. -/
structure Trail where
  files : FileTree
  requests : List Request

/-- What a run gives when it ends well. -/
structure Outcome extends Trail where
  fitted : Fitted Float

/-- Is there a table of ratings already? -/
def isKept (files : FileTree) : Bool :=
  files.contains (Path.ofString tablePath)

/-- Reads the table that was kept. -/
def readTable (files : FileTree) : Except Failure Frame := do
  TableLibrary.read ["user_id", "item_id"] .null (← files.read (Path.ofString tablePath))

/-- Downloads the table and keeps it. The folder is made before anything is asked for, and stays
when the download fails. -/
def keepTable (server : Server) (files : FileTree) : Except Failure Frame × Trail :=
  let path := Path.ofString tablePath
  let requests := [Edition.small.request]
  match files.makeParents path with
  | .error cause => (.error cause, { files, requests := [] })
  | .ok files =>
    match fetch server .small .null with
    | .error cause => (.error cause, { files, requests })
    | .ok table =>
      match files.write path (TableLibrary.write table) with
      | .error cause => (.error cause, { files, requests })
      | .ok files => (.ok table, { files, requests })

/-- What is left behind once the ratings were looked for. -/
def trail (server : Server) (files : FileTree) : Trail :=
  if isKept files then { files, requests := [] } else (keepTable server files).2

/-- The ratings. -/
def obtain (server : Server) (files : FileTree) : Reporting Frame := do
  if isKept files then
    Reporting.say "Small dataset already downloaded."
    Reporting.silent (readTable files)
  else
    Reporting.say "Downloading MovieLens small dataset..."
    let table ← Reporting.silent (keepTable server files).1
    Reporting.say ("Saved small dataset to " ++ tablePath)
    return table

/-- Trains on ratings with the settings there are among the files. -/
def fit (files : FileTree) (table : Frame) : Reporting (Fitted Float) := do
  let document ← Reporting.silent (Settings.load files settingsPath)
  let rows ← Reporting.silent table.ratings
  let plan ← Reporting.silent (Plan.ofDocument document)
  plan.evaluate rows

/-- Obtains the ratings and goes the whole way. -/
def run (server : Server) (files : FileTree) : Reporting Outcome := do
  let table ← obtain server files
  let trail := trail server files
  return { trail with fitted := ← fit trail.files table }

end PoissonFactor.MovieLens
