import PoissonFactor.Failure
import PoissonFactor.Value.Basic

/-!
# Values as JSON

Every character beyond printing ASCII is written as an escape, a character above
`U+FFFF` as two. Doubles have their shortest text and three words for what is not
finite. The keys of an object may be any plain value and become text. Two layouts:
on one line, or with an entry on each line, indented.
-/

namespace PoissonFactor.Json

/-- One unit of sixteen bits as an escape. -/
def escapeUnit (n : Nat) : List Char :=
  '\\' :: 'u' :: Text.hex 4 n

/-- One character inside quotes. -/
def escapeChar (c : Char) : List Char :=
  if c = '"' then ['\\', '"']
  else if c = '\\' then ['\\', '\\']
  else if c = '\n' then ['\\', 'n']
  else if c = '\r' then ['\\', 'r']
  else if c = '\t' then ['\\', 't']
  else if c = '\x08' then ['\\', 'b']
  else if c = '\x0c' then ['\\', 'f']
  else if 0x20 ≤ c.toNat && c.toNat < 0x7f then [c]
  else if c.toNat < 0x10000 then escapeUnit c.toNat
  else
    let n := c.toNat - 0x10000
    escapeUnit (0xd800 + n / 0x400) ++ escapeUnit (0xdc00 + n % 0x400)

/-- One code point inside quotes. -/
def escapePoint (p : Text.Point) : List Char :=
  match p.char? with
  | some c => escapeChar c
  | none => escapeUnit p.val

/-- A text between quotes. -/
def quoted (ps : List Text.Point) : List Char :=
  '"' :: (ps.flatMap escapePoint ++ ['"'])

/-- A double: the shortest text, or one of three words. -/
def number (x : Float) : String :=
  match Decimal.parts x with
  | .nan => "NaN"
  | .infinite negative => if negative then "-Infinity" else "Infinity"
  | .finite .. => Decimal.plain x

/-- A value without members, or nothing for one that has members. -/
def scalar? : Value → Except Failure (Option (List Char))
  | .null => .ok (some "null".toList)
  | .bool b => .ok (some (if b then "true" else "false").toList)
  | .int i => .ok (some (toString i).toList)
  | .float x => .ok (some (number x).toList)
  | .str s => .ok (some (quoted (Text.pointsOf s.toList)))
  | .illformed t => .ok (some (quoted t.points))
  | .list _ | .tuple _ | .dict _ => .ok none
  | v => .error (.notSerializable v.kind)

/-- A key of an object as text. -/
def key : Value → Except Failure (List Text.Point)
  | .str s => .ok (Text.pointsOf s.toList)
  | .illformed t => .ok t.points
  | .int i => .ok (Text.pointsOf (toString i).toList)
  | .float x => .ok (Text.pointsOf (number x).toList)
  | .bool b => .ok (Text.pointsOf (if b then "true" else "false").toList)
  | .null => .ok (Text.pointsOf "null".toList)
  | v => .error (.badMappingKey v.kind)

/-- How the members of a value are laid out. -/
structure Layout where
  /-- What stands between two members on one line. -/
  comma : List Char
  /-- How much further each level is indented; nothing keeps everything on one line. -/
  indent : Option Nat

/-- Everything on one line. -/
def oneLine : Layout := { comma := [',', ' '], indent := none }

/-- A member on each line, indented by two. -/
def indented : Layout := { comma := [','], indent := some 2 }

/-- The break before a member at a depth. -/
def Layout.lineBreak (l : Layout) (depth : Nat) : List Char :=
  match l.indent with
  | none => []
  | some n => '\n' :: List.replicate (n * depth) ' '

/-- Members between brackets. -/
def Layout.wrap (l : Layout) (opening closing : Char) (depth : Nat) (members : List (List Char)) :
    List Char :=
  match members with
  | [] => [opening, closing]
  | m :: rest =>
    opening :: l.lineBreak (depth + 1) ++ m
      ++ rest.flatMap (fun m => l.comma ++ l.lineBreak (depth + 1) ++ m)
      ++ l.lineBreak depth ++ [closing]

mutual

/-- A value as JSON at a depth. -/
def chars (l : Layout) (depth : Nat) : Value → Except Failure (List Char)
  | .list items => do return l.wrap '[' ']' depth (← itemChars l (depth + 1) items)
  | .tuple items => do return l.wrap '[' ']' depth (← itemChars l (depth + 1) items)
  | .dict entries => do return l.wrap '\x7b' '\x7d' depth (← entryChars l (depth + 1) entries)
  | v => do return (← scalar? v).getD []

/-- The members of an array. -/
def itemChars (l : Layout) (depth : Nat) : List Value → Except Failure (List (List Char))
  | [] => .ok []
  | v :: rest => do
    let cs ← chars l depth v
    return cs :: (← itemChars l depth rest)

/-- The members of an object. -/
def entryChars (l : Layout) (depth : Nat) :
    List (Value × Value) → Except Failure (List (List Char))
  | [] => .ok []
  | (k, v) :: rest => do
    let name ← key k
    let cs ← chars l depth v
    return (quoted name ++ ':' :: ' ' :: cs) :: (← entryChars l depth rest)

end

/-- A value as JSON. -/
def text (l : Layout) (v : Value) : Except Failure String := do
  return String.ofList (← chars l 0 v)

end PoissonFactor.Json
