import PoissonFactor.Decimal.Notation
import PoissonFactor.Text.Quoted

/-!
# Values of settings and tables

A settings file and a rating table hold values whose type is known only when they
are read. `Value` is that type; it appears where such a value enters the library
and nowhere behind the checks that turn it into a number, a flag or an identifier.
-/

namespace PoissonFactor

/-- A value read from a settings file, a table or a caller. -/
inductive Value where
  | null
  | bool (b : Bool)
  | int (i : Int)
  | float (x : Float)
  | str (s : String)
  /-- A text that is no `String`, since it has a surrogate in it. -/
  | illformed (t : Text.Illformed)
  | bytes (b : List UInt8)
  /-- A complex number by its two parts. -/
  | complex (re im : Float)
  | ellipsis
  | list (items : List Value)
  | tuple (items : List Value)
  /-- A set, its members in the order of their first appearance. -/
  | set (items : List Value)
  /-- A mapping, its keys in the order of their first appearance. -/
  | dict (entries : List (Value × Value))

namespace Value

instance : Inhabited Value := ⟨.null⟩

/-- The text of some code points. -/
def ofPoints (ps : List Text.Point) : Value :=
  match h : Text.characters? ps with
  | some cs => .str (String.ofList cs)
  | none => .illformed ⟨ps, h⟩

/-- The code points of a text. -/
def points? : Value → Option (List Text.Point)
  | .str s => some (Text.pointsOf s.toList)
  | .illformed t => some t.points
  | _ => none

/-- The code points of a text say which text it is. -/
theorem ofPoints_of_points? {v : Value} {ps : List Text.Point} (h : v.points? = some ps) :
    ofPoints ps = v := by
  cases v with
  | str s =>
    have hchars : Text.characters? ps = some s.toList := by
      rw [← Option.some.inj h, Text.characters?_pointsOf]
    unfold ofPoints
    split
    next cs heq => rw [← Option.some.inj (hchars.symm.trans heq), String.ofList_toList]
    next heq => cases hchars.symm.trans heq
  | illformed t =>
    have hpoints : t.points = ps := Option.some.inj h
    subst hpoints
    unfold ofPoints
    split
    next cs heq => cases t.surrogate.symm.trans heq
    next => rfl
  | _ => cases h

/-- The name messages use for the type of a value. -/
def kind : Value → String
  | .null => "NoneType"
  | .bool _ => "bool"
  | .int _ => "int"
  | .float _ => "float"
  | .str _ | .illformed _ => "str"
  | .bytes _ => "bytes"
  | .complex .. => "complex"
  | .ellipsis => "ellipsis"
  | .list _ => "list"
  | .tuple _ => "tuple"
  | .set _ => "set"
  | .dict _ => "dict"

/-- Is the value empty, zero or absent? Everything else counts as true. -/
def isTrue : Value → Bool
  | .null => false
  | .bool b => b
  | .int i => i != 0
  | .float x => !(x == 0)
  | .str s => !s.isEmpty
  | .illformed _ => true
  | .bytes b => !b.isEmpty
  | .complex re im => !(re == 0 && im == 0)
  | .ellipsis => true
  | .list items | .tuple items | .set items => !items.isEmpty
  | .dict entries => !entries.isEmpty

/-- One part of a complex number: the shortest digits, a whole number without `.0`. -/
def partText (x : Float) : List Char :=
  let style := { Decimal.plainStyle with keepPoint := false }
  (style.write Decimal.shortest x).toList

/-- A complex number: the imaginary part alone when the real part is zero and not negative. -/
def complexText (re im : Float) : List Char :=
  if re == 0 && !Decimal.isNegative re then partText im ++ ['j']
  else
    let mark := if Decimal.isNegative im && !Decimal.isNaN im then [] else ['+']
    '(' :: partText re ++ mark ++ partText im ++ ['j', ')']

/-- Joins texts with a comma and a space. -/
def commaJoined : List (List Char) → List Char
  | [] => []
  | [cs] => cs
  | cs :: rest => cs ++ ',' :: ' ' :: commaJoined rest

mutual

/-- How a value is shown inside a message. -/
def showChars : Value → List Char
  | .null => "None".toList
  | .bool b => (if b then "True" else "False").toList
  | .int i => (toString i).toList
  | .float x => (Decimal.plain x).toList
  | .str s => Text.quoted (Text.pointsOf s.toList)
  | .illformed t => Text.quoted t.points
  | .bytes b => Text.quotedBytes b
  | .complex re im => complexText re im
  | .ellipsis => "Ellipsis".toList
  | .list items => '[' :: commaJoined (showItems items) ++ [']']
  | .tuple items =>
    match showItems items with
    | [cs] => '(' :: cs ++ [',', ')']
    | texts => '(' :: commaJoined texts ++ [')']
  | .set items =>
    match showItems items with
    | [] => "set()".toList
    | texts => '\x7b' :: commaJoined texts ++ ['\x7d']
  | .dict entries => '\x7b' :: commaJoined (showEntries entries) ++ ['\x7d']

/-- The members of a value, each as it is shown. -/
def showItems : List Value → List (List Char)
  | [] => []
  | v :: rest => showChars v :: showItems rest

/-- The entries of a mapping, each as it is shown. -/
def showEntries : List (Value × Value) → List (List Char)
  | [] => []
  | (k, v) :: rest => (showChars k ++ ':' :: ' ' :: showChars v) :: showEntries rest

end

/-- How a value is shown inside a message. -/
def shown (v : Value) : String :=
  String.ofList (showChars v)

/-- A value as plain text: a text is itself, with an escape for every surrogate, and all else is
shown. -/
def text : Value → String
  | .str s => s
  | .illformed t => String.ofList (Text.escaped t.points)
  | v => v.shown

end Value

end PoissonFactor
