import PoissonFactor.Text.Quoted

/-!
# Paths

A path is a row of names, with one or two slashes in front when it starts at the
root. Empty names and single dots mean nothing and are dropped when a path is read,
so that two spellings of a path are shown alike.
-/

namespace PoissonFactor

/-- A path: how many slashes stand in front, and its names. -/
structure Path where
  slashes : Nat
  names : List (List Char)
deriving DecidableEq

namespace Path

/-- The pieces of a text between slashes. -/
def pieces : List Char → List (List Char)
  | [] => [[]]
  | c :: rest =>
    if c = '/' then [] :: pieces rest
    else
      match pieces rest with
      | [] => [[c]]
      | p :: ps => (c :: p) :: ps

/-- The path that a text spells. Exactly two slashes in front are kept, more count as one. -/
def ofChars (cs : List Char) : Path :=
  let front := (cs.takeWhile (· = '/')).length
  { slashes := if 2 < front then 1 else front
    names := (pieces cs).filter fun p => !p.isEmpty && p != ['.'] }

/-- The path that a string spells. -/
def ofString (s : String) : Path :=
  ofChars s.toList

/-- Names with slashes between them. -/
def joined : List (List Char) → List Char
  | [] => []
  | [p] => p
  | p :: ps => p ++ '/' :: joined ps

/-- A path as text. -/
def chars (p : Path) : List Char :=
  if p.slashes = 0 && p.names.isEmpty then ['.']
  else List.replicate p.slashes '/' ++ joined p.names

/-- A path as text. -/
def text (p : Path) : String :=
  String.ofList p.chars

/-- A path as messages show it. -/
def shown (p : Path) : String :=
  String.ofList (Text.quoted (Text.pointsOf p.chars))

/-- The last name, or nothing. -/
def name (p : Path) : List Char :=
  p.names.getLast?.getD []

/-- The end of a name from its last dot on, unless that is its first or last character. -/
def suffix (p : Path) : List Char :=
  let after := (p.name.reverse.takeWhile (· ≠ '.')).length
  let before := p.name.length - after - 1
  if p.name.contains '.' && 0 < before && 0 < after then p.name.drop before else []

/-- The name of the root in a place. -/
def rootName : List Char := ['/']

/-- The name that leads to the folder above. -/
def upName : List Char := ['.', '.']

/-- The names that lead to a path; from the root they begin with its name. -/
def place (p : Path) : List (List Char) :=
  if 0 < p.slashes then rootName :: p.names else p.names

/-- The place that a name leads to. There is nothing above the root, and above the current
folder there are only folders without a name. -/
def step (here : List (List Char)) (n : List Char) : List (List Char) :=
  if n ≠ upName then here ++ [n]
  else if here = [rootName] then here
  else if here.all (· = upName) then here ++ [upName]
  else here.dropLast

/-- The path without its last name. -/
def parent (p : Path) : Path :=
  { p with names := p.names.dropLast }

end Path

end PoissonFactor
