import PoissonFactor.Literal.Evaluate
import PoissonFactor.Text.Blank

/-!
# Settings files

A settings file has named sections of `key: value` lines. A line that ends with a
colon opens a section; a section opened again starts empty in its old place. Blank
lines and lines that begin with `#` are skipped, and a `#` after a blank ends a
line. A value is one of four words, a literal, or else plain text.
-/

namespace PoissonFactor.Settings

variable [Text.CharacterNames]

/-- The settings of a section in the order of their first appearance. -/
abbrev Section := List (String × Value)

/-- The sections of a file in the order of their first appearance. -/
abbrev Document := List (String × Section)

/-- Puts a value under a name: a name that is there keeps its place. -/
def put {α : Type} (name : String) (a : α) : List (String × α) → List (String × α)
  | [] => [(name, a)]
  | (n, b) :: rest => if n = name then (n, a) :: rest else (n, b) :: put name a rest

/-- A setting of a section; one that is missing is absent. -/
def Section.get (s : Section) (name : String) : Value :=
  (s.lookup name).getD .null

/-- A section of a document; one that is missing is empty. -/
def Document.section (d : Document) (name : String) : Section :=
  (d.lookup name).getD []

/-- A line up to the first blank that is followed by `#`. -/
def cutComment : List Char → List Char
  | [] => []
  | c :: rest => if Text.isBlank c && rest.head? = some '#' then [] else c :: cutComment rest

/-- The value a text spells: one of the four words, a literal, or the text itself. -/
def readValue (cs : List Char) : Except Failure Value := do
  let word := String.ofList cs
  if word = "true" then return .bool true
  if word = "false" then return .bool false
  if word = "null" || word = "~" then return .null
  return (← Literal.read cs).getD (.str word)

/-- What one line says. -/
inductive Line where
  | nothing
  | opens (name : String)
  | sets (key : String) (value : List Char)
deriving DecidableEq

/-- What one line says. -/
def readLine (cs : List Char) : Line :=
  let cs := Text.trim cs
  if cs.isEmpty || cs.head? = some '#' then .nothing
  else
    let cs := Text.trimEnd (cutComment cs)
    if cs.getLast? = some ':' then .opens (String.ofList cs.dropLast)
    else if cs.contains ':' then
      .sets (String.ofList (Text.trim (cs.takeWhile (· != ':'))))
        (Text.trim ((cs.dropWhile (· != ':')).drop 1))
    else .nothing

/-- Adds what the remaining lines say to a document. `current` is the open section. -/
def readLines (current : Option String) (d : Document) :
    List (List Char) → Except Failure Document
  | [] => .ok d
  | cs :: rest =>
    match readLine cs with
    | .nothing => readLines current d rest
    | .opens name => readLines (some name) (put name [] d) rest
    | .sets key value =>
      match current with
      | none => readLines current d rest
      | some name => do
        let v ← readValue value
        readLines current (put name (put key v (d.section name)) d) rest

/-- The sections of a text. -/
def read (cs : List Char) : Except Failure Document :=
  readLines none [] (Text.lines cs)

end PoissonFactor.Settings
