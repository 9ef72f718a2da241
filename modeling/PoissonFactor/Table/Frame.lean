import PoissonFactor.Ratings.Load
import PoissonFactor.Table.Column
import PoissonFactor.Table.Delimited

/-!
# Tables in memory

A frame is a list of named columns of one length. It is read from a text whose first
row names the columns and written back with as few quotes as possible. A frame with
the three columns of ratings can be taken as rows of ratings.
-/

namespace PoissonFactor

/-- Named columns of one length. -/
abbrev Frame := List (String × Column)

namespace Frame

/-- The column with a name. -/
def column? (f : Frame) (name : String) : Option Column :=
  f.lookup name

/-- The frame of named lists, which must have one length. -/
def ofLists (columns : List (String × List Value)) : Except Failure Frame :=
  match columns with
  | [] => .ok []
  | (_, vs) :: rest =>
    if rest.all fun c => c.2.length = vs.length then
      .ok (columns.map fun (n, vs) => (n, Column.ofValues vs))
    else .error .unequalColumns

/-- The entries of a column of a grid. -/
def cells (rows : List (List (List Char))) (i : Nat) : List (List Char) :=
  rows.map fun row => row.getD i []

/-- The frame of a grid. The columns in `textNames` are kept as texts. -/
def ofGrid (textNames : List String) (g : Delimited.Grid) : Frame :=
  g.names.zipIdx.map fun (n, i) =>
    (n, if textNames.contains n then Column.keepTexts (cells g.rows i)
        else Column.ofTexts (cells g.rows i))

/-- How many rows are wanted: all, or a whole number of them, of which less than none is none. -/
def rowLimit (limit : Value) : Except Failure (Option Nat) :=
  match limit with
  | .null => .ok none
  | .float x => do
    let i ← (Number.float x).truncate?
    if (Number.int i).eq (.float x) then return some i.toNat else throw .badRowCount
  | .int i => if 0 ≤ i then .ok (some i.toNat) else .error .badRowCount
  | _ => .error .badRowCount

/-- How many bytes of a table arrive at once. -/
def pieceSize : Nat := 262144

/-- The frame of a file's bytes, with as many rows as the limit allows. The head of the table is
looked at before the limit is. -/
def ofBytes (textNames : List String) (limit : Value) (bytes : List UInt8) :
    Except Failure Frame := do
  match Text.decodePieces pieceSize [] [] (bytes.map UInt8.toNat) with
  | (cs, none) =>
    let _ ← Delimited.read (some 0) cs
    return ofGrid textNames (← Delimited.read (← rowLimit limit) cs)
  | (_, some e) => .error (.undecodable e)

/-- Does a field have to be quoted? -/
def needsQuotes (cs : List Char) : Bool :=
  cs.any fun c => c == ',' || c == '"' || c == '\n'

/-- A field as it is written. -/
def fieldText (cs : List Char) : List Char :=
  if needsQuotes cs then
    '"' :: (cs.flatMap fun c => if c = '"' then ['"', '"'] else [c]) ++ ['"']
  else cs

/-- A row as it is written. -/
def rowText (fields : List (List Char)) : List Char :=
  List.intercalate [','] (fields.map fieldText) ++ ['\n']

/-- How many rows a frame has. -/
def height (f : Frame) : Nat :=
  (f.head?.map fun c => c.2.values.length).getD 0

/-- The rows of a frame. -/
def rows (f : Frame) : List (List Value) :=
  (f.map fun c => c.2.values).foldr (List.zipWith (· :: ·)) (List.replicate f.height [])

/-- A frame as text: a missing entry is empty. -/
def text (f : Frame) : String :=
  String.ofList (rowText (f.map fun c => c.1.toList)
    ++ f.rows.flatMap fun row => rowText (row.map fun v => ((Column.entryText v).getD "").toList))

/-- The rows of ratings of a frame, which needs three columns and no rating missing. -/
def ratings (f : Frame) : Except Failure (List RatingRow) := do
  LoadedRating.checkColumns (f.map Prod.fst)
  let get (name : String) : List Value := ((f.column? name).map Column.values).getD []
  let ratings := get "rating"
  if ratings.any Column.isMissing then throw .missingRatings
  let values ← ratings.mapM fun v => v.toFloat
  return (List.zip (get "user_id") (List.zip (get "item_id") values)).map fun (u, i, x) =>
    { user := some u, item := some i, rating := some (.float x) }

end Frame

end PoissonFactor
