import PoissonFactor.Table.Library

/-!
# Downloading MovieLens ratings

The ratings are published in two editions, each an archive with a table of ratings in
a folder of its own. A download asks for the archive once and fails on an answer that
reports an error, on a body that is no archive, and on an archive without the table.
The table's columns are renamed; identifiers become texts and ratings doubles.

Which answers report an error is up to the client that asks (`WebClient`), and how tables are read
and converted to the library of tables.
-/

namespace PoissonFactor.MovieLens

open TableLibrary (toTexts toDoubles)

/-- The editions of the ratings. -/
inductive Edition where
  | small
  | medium
deriving DecidableEq, Repr

/-- A request to the web server. -/
structure Request where
  url : String
  /-- How many seconds to wait. -/
  patience : Nat
deriving DecidableEq, Repr

/-- An answer of the web server. -/
structure Response where
  status : Int
  reason : String
  /-- The files of the archive that was sent, or nothing if the body is no archive. -/
  archive : Option (List (String × List UInt8))

/-- What the web server answers. -/
abbrev Server := Request → Response

namespace Edition

/-- The edition with a name; upper and lower case count the same. -/
def ofName (name : Value) : Except Failure Edition :=
  match name with
  | .str s =>
    let word := Numeral.lower s.toList
    if word = "small".toList then .ok .small
    else if word = "medium".toList then .ok .medium
    else .error .unknownDataset
  | .illformed _ => .error .unknownDataset
  | v => .error (.noLowerCase v.kind)

/-- The name of an edition's archive, which is also that of the folder inside it. -/
def archiveName : Edition → String
  | .small => "ml-latest-small"
  | .medium => "ml-latest"

/-- Where the archives are published. -/
def site : String := "https://files.grouplens.org/datasets/movielens/"

/-- The request for an edition. The larger one may take twice as long. -/
def request (e : Edition) : Request where
  url := site ++ e.archiveName ++ ".zip"
  patience := match e with
    | .small => 60
    | .medium => 120

/-- The file of an edition that holds the ratings. -/
def member (e : Edition) : String :=
  e.archiveName ++ "/ratings.csv"

end Edition

/-- A client of the web server. -/
class WebClient where
  /-- Refuses an answer that reports an error. -/
  check (r : Response) (url : String) : Except Failure Unit

/-- The client that goes by the status of an answer. -/
abbrev WebClient.standard : WebClient where
  check r url :=
    if 400 ≤ r.status && r.status < 600 then .error (.httpStatus r.status r.reason url)
    else .ok ()

/-- The bytes of a file of the archive that was sent. -/
def Response.file (r : Response) (name : String) : Except Failure (List UInt8) :=
  match r.archive with
  | none => .error .notAnArchive
  | some files =>
    match files.lookup name with
    | some bytes => .ok bytes
    | none => .error (.missingMember name)

/-- A column name of the published table as this library calls it. -/
def columnName (name : String) : String :=
  if name = "userId" then "user_id" else if name = "movieId" then "item_id" else name

/-- A column that has to be there. -/
def column (f : Frame) (name : String) : Except Failure Column :=
  match f.column? name with
  | some c => .ok c
  | none => .error (.missingField name)

variable [TableLibrary]

/-- The three columns of ratings of a published table. -/
def ratingColumns (table : Frame) : Except Failure Frame := do
  let f : Frame := table.map fun (n, c) => (columnName n, c)
  let users ← column f "user_id"
  let items ← column f "item_id"
  let ratings ← toDoubles (← column f "rating")
  return [("user_id", toTexts users), ("item_id", toTexts items), ("rating", ratings)]

variable [WebClient]

/-- The ratings of an edition, or the first `limit` of them. -/
def fetch (server : Server) (e : Edition) (limit : Value) : Except Failure Frame := do
  let answer := server e.request
  WebClient.check answer e.request.url
  ratingColumns (← TableLibrary.read [] limit (← answer.file e.member))

/-- The requests that a download makes, and the ratings that it finds. -/
def download (server : Server) (dataset limit : Value) : List Request × Except Failure Frame :=
  match Edition.ofName dataset with
  | .error cause => ([], .error cause)
  | .ok e => ([e.request], fetch server e limit)

end PoissonFactor.MovieLens
