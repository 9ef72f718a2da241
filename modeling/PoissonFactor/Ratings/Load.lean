import PoissonFactor.Files.Tree
import PoissonFactor.Ratings.Holdout
import PoissonFactor.Table.Records

/-!
# Loading ratings from a file

A rating file begins with a record of column names, among them `user_id`, `item_id`
and `rating`. Every later record that has fields is a row; its rating has to be a
number, its identifiers are kept as text. A row with too few fields lacks the last
columns, and when a name occurs twice the last column of that name counts. With a
limit, reading ends after that many rows, and nothing behind them can fail.
-/

namespace PoissonFactor

/-- A loaded row. A short row may lack an identifier. -/
structure LoadedRating where
  user : Option String
  item : Option String
  rating : Float

namespace LoadedRating

/-- The columns every table of ratings has to have. -/
def requiredColumns : List String := ["user_id", "item_id", "rating"]

/-- Refuses a table that lacks a required column. -/
def checkColumns (names : List String) : Except Failure Unit :=
  match requiredColumns.filter fun c => !names.contains c with
  | [] => .ok ()
  | missing => .error (.missingColumns missing)

/-- The rating of a row, which has to be a number. `line` counts the rows from two. -/
def parseRating (v : Value) (line : Nat) : Except Failure Float :=
  match v.toFloat with
  | .ok x => if Decimal.isNaN x then .error (.ratingIsNaN line) else .ok x
  | .error cause =>
    match cause.family with
    | .value | .type => .error (.ratingNotANumber line v.shown)
    | _ => .error cause

/-- The field of a record under a column name: of the last column with that name that the
record reaches, unless one with that name lies beyond its end. -/
def field (name : String) : List String → Records.Record → Option String → Option String
  | [], _, found => found
  | n :: ns, [], found => field name ns [] (if n = name then none else found)
  | n :: ns, f :: fs, found =>
    field name ns fs (if n = name then some (String.ofList f) else found)

/-- A text of a row as a value; what a short row lacks is absent. -/
def textValue : Option String → Value
  | some s => .str s
  | none => .null

/-- The row of a record. -/
def ofRecord (columns : List String) (line : Nat) (record : Records.Record) :
    Except Failure LoadedRating := do
  let user := field "user_id" columns record none
  let item := field "item_id" columns record none
  let rating ← parseRating (textValue (field "rating" columns record none)) line
  return { user, item, rating }

/-- Have as many rows been read as the limit allows? -/
def reaches (limit : Option Number) (count : Nat) : Bool :=
  match limit with
  | some n => n.le (.int count)
  | none => false

/-- The rows of records, from row number `line` on; `count` rows were read before. The failure
that ended the reading of the records is met after the last of them. -/
def ofRecords (columns : List String) (limit : Option Number) (failure : Option Failure)
    (line count : Nat) : List Records.Record → Except Failure (List LoadedRating)
  | [] =>
    match failure with
    | some cause => .error cause
    | none => .ok []
  | [] :: rest => ofRecords columns limit failure line count rest
  | record :: rest => do
    let row ← ofRecord columns line record
    if reaches limit (count + 1) then return [row]
    return row :: (← ofRecords columns limit failure (line + 1) (count + 1) rest)

/-- A limit has to be a number above zero. -/
def checkLimit (limit : Option Value) : Except Failure (Option Number) :=
  match limit with
  | none => .ok none
  | some v => do
    let n ← v.comparable
    if n.le (.int 0) then .error .limitNotPositive else return some n

/-- The rows of a file's bytes. -/
def ofBytes (limit : Option Number) (bytes : List UInt8) : Except Failure (List LoadedRating) :=
  let (records, failure) := Records.readBytes bytes
  match records with
  | [] =>
    match failure with
    | some cause => .error cause
    | none => .error (.missingColumns requiredColumns)
  | header :: rest => do
    let columns := header.map String.ofList
    checkColumns columns
    ofRecords columns limit failure 2 0 rest

/-- The end of a path that marks a rating file. -/
def extension : List Char := ".csv".toList

/-- The rows of a rating file. -/
def load (files : FileTree) (path : String) (limit : Option Value) :
    Except Failure (List LoadedRating) := do
  let path := Path.ofString path
  if path.suffix.map Char.toLower ≠ extension then
    throw (.unsupportedExtension (String.ofList path.suffix))
  let limit ← checkLimit limit
  ofBytes limit (← files.read path)

/-- How many different texts there are. -/
def distinct (xs : List (Option String)) : Nat :=
  xs.eraseDups.length

/-- What is reported about loaded rows. -/
def report (path : String) (rows : List LoadedRating) : List String :=
  ("Loaded " ++ toString rows.length ++ " ratings from " ++ (Path.ofString path).text ++ ".")
    :: if rows.isEmpty then []
       else ["Dataset contains " ++ toString (distinct (rows.map LoadedRating.user))
         ++ " unique users and " ++ toString (distinct (rows.map LoadedRating.item))
         ++ " unique items."]

/-- A loaded row as a row of ratings. -/
def toRow (r : LoadedRating) : RatingRow where
  user := some (textValue r.user)
  item := some (textValue r.item)
  rating := some (.float r.rating)

end LoadedRating

end PoissonFactor
