import PoissonFactor.Literal.Token
import PoissonFactor.Value.Basic

/-!
# The shape of a literal

Constants, signs before them, sums of two of them, and brackets around them. The
shape is read before anything is evaluated: a name that is no constant has a place
in it, so that a literal with two faults reports the one that comes first when it
is evaluated from left to right.
-/

namespace PoissonFactor.Literal

variable [Text.CharacterNames]

/-- The shape of a literal. -/
inductive Expr where
  | constant (v : Value)
  /-- A name or formatted text, which has no fixed value. -/
  | unknown
  | signed (negative : Bool) (e : Expr)
  | sum (negative : Bool) (left right : Expr)
  | tuple (items : List Expr)
  | list (items : List Expr)
  | set (items : List Expr)
  | dict (entries : List (Expr × Expr))

/-- How many brackets may be open at once. -/
def bracketLimit : Nat := 200

/-- Do the open brackets of a row of words stay within the limit? -/
def withinBrackets (opened : Nat) : List Token → Bool
  | [] => true
  | .mark c :: rest =>
    if c = '(' || c = '[' || c = '\x7b' then
      decide (opened < bracketLimit) && withinBrackets (opened + 1) rest
    else if c = ')' || c = ']' || c = '\x7d' then withinBrackets (opened - 1) rest
    else withinBrackets opened rest
  | _ :: rest => withinBrackets opened rest

/-- Quoted texts that follow one another form one. -/
def joinTexts (ps : List Text.Point) (isFormatted : Bool) :
    List Token → Option (Expr × List Token)
  | .text more :: rest => joinTexts (ps ++ more) isFormatted rest
  | .formatted :: rest => joinTexts ps true rest
  | .bytes _ :: _ => none
  | rest => some (if isFormatted then .unknown else .constant (.ofPoints ps), rest)

/-- Byte literals that follow one another form one. -/
def joinBytes (b : List UInt8) : List Token → Option (Expr × List Token)
  | .bytes more :: rest => joinBytes (b ++ more) rest
  | .text _ :: _ => none
  | .formatted :: _ => none
  | rest => some (.constant (.bytes b), rest)

/-- The value of a name: three names are constants. -/
def nameExpr (cs : List Char) : Expr :=
  let name := String.ofList cs
  if name = "True" then .constant (.bool true)
  else if name = "False" then .constant (.bool false)
  else if name = "None" then .constant .null
  else .unknown

/-- A literal without brackets or signs: one word, or texts in a row. -/
def plainAtom : List Token → Option (Expr × List Token)
  | .integer n :: rest => some (.constant (.int n), rest)
  | .decimal x :: rest => some (.constant (.float x), rest)
  | .imaginary x :: rest => some (.constant (.complex 0 x), rest)
  | .dots :: rest => some (.constant .ellipsis, rest)
  | .text ps :: rest => joinTexts ps false rest
  | .formatted :: rest => joinTexts [] true rest
  | .bytes b :: rest => joinBytes b rest
  | .name cs :: .mark '(' :: .mark ')' :: rest =>
    if cs = "set".toList then some (.set [], rest) else none
  | .name cs :: rest => some (nameExpr cs, rest)
  | _ => none

mutual

/-- A sum of signed atoms, grouped from the left. -/
def expr (fuel : Nat) (ts : List Token) : Option (Expr × List Token) :=
  match fuel with
  | 0 => none
  | fuel + 1 =>
    match factor fuel ts with
    | some (e, rest) => sumRest fuel e rest
    | none => none

/-- The terms that follow a sum read so far. -/
def sumRest (fuel : Nat) (left : Expr) (ts : List Token) : Option (Expr × List Token) :=
  match fuel, ts with
  | fuel + 1, .mark '+' :: rest =>
    match factor fuel rest with
    | some (e, after) => sumRest fuel (.sum false left e) after
    | none => none
  | fuel + 1, .mark '-' :: rest =>
    match factor fuel rest with
    | some (e, after) => sumRest fuel (.sum true left e) after
    | none => none
  | _, ts => some (left, ts)

/-- An atom after any number of signs. -/
def factor (fuel : Nat) (ts : List Token) : Option (Expr × List Token) :=
  match fuel, ts with
  | fuel + 1, .mark '+' :: rest =>
    (factor fuel rest).map fun (e, after) => (.signed false e, after)
  | fuel + 1, .mark '-' :: rest =>
    (factor fuel rest).map fun (e, after) => (.signed true e, after)
  | fuel + 1, ts => atom fuel ts
  | 0, _ => none

/-- A word, or a bracket with what it holds. -/
def atom (fuel : Nat) (ts : List Token) : Option (Expr × List Token) :=
  match fuel, ts with
  | fuel + 1, .mark '(' :: rest =>
    match items fuel ')' rest with
    | some ([e], false, after) => some (e, after)
    | some (es, _, after) => some (.tuple es, after)
    | none => none
  | fuel + 1, .mark '[' :: rest =>
    (items fuel ']' rest).map fun (es, _, after) => (.list es, after)
  | _ + 1, .mark '\x7b' :: .mark '\x7d' :: rest => some (.dict [], rest)
  | fuel + 1, .mark '\x7b' :: rest =>
    match expr fuel rest with
    | some (k, .mark ':' :: after) =>
      match expr fuel after with
      | some (v, .mark ',' :: after) =>
        (entries fuel after).map fun (es, after) => (.dict ((k, v) :: es), after)
      | some (v, after) => (closes '\x7d' after).map fun after => (.dict [(k, v)], after)
      | none => none
    | some (e, .mark ',' :: after) =>
      (items fuel '\x7d' after).map fun (es, _, after) => (.set (e :: es), after)
    | some (e, after) => (closes '\x7d' after).map fun after => (.set [e], after)
    | none => none
  | _ + 1, ts => plainAtom ts
  | 0, _ => none

/-- Members up to the closing bracket, separated by commas; the flag tells whether a comma
stood before the bracket. -/
def items (fuel : Nat) (close : Char) (ts : List Token) :
    Option (List Expr × Bool × List Token) :=
  match fuel, ts with
  | 0, _ => none
  | fuel + 1, ts =>
    match closes close ts with
    | some rest => some ([], false, rest)
    | none =>
      match expr fuel ts with
      | some (e, .mark ',' :: rest) =>
        (items fuel close rest).map fun (es, comma, after) =>
          (e :: es, comma || es.isEmpty, after)
      | some (e, rest) => (closes close rest).map fun after => ([e], false, after)
      | none => none

/-- Entries of a mapping up to the closing bracket. -/
def entries (fuel : Nat) (ts : List Token) : Option (List (Expr × Expr) × List Token) :=
  match fuel, ts with
  | 0, _ => none
  | fuel + 1, ts =>
    match closes '\x7d' ts with
    | some rest => some ([], rest)
    | none =>
      match expr fuel ts with
      | some (k, .mark ':' :: rest) =>
        match expr fuel rest with
        | some (v, .mark ',' :: rest) =>
          (entries fuel rest).map fun (es, after) => ((k, v) :: es, after)
        | some (v, rest) => (closes '\x7d' rest).map fun after => ([(k, v)], after)
        | none => none
      | _ => none

/-- What follows the closing bracket, if it comes first. -/
def closes (close : Char) (ts : List Token) : Option (List Token) :=
  match ts with
  | .mark c :: rest => if c = close then some rest else none
  | _ => none

end

/-- Members up to the end of the row, separated by commas. -/
def members : Nat → List Token → Option (List Expr)
  | _, [] => some []
  | 0, _ => none
  | fuel + 1, ts =>
    match expr fuel ts with
    | some (e, []) => some [e]
    | some (e, .mark ',' :: rest) => (members fuel rest).map (e :: ·)
    | _ => none

/-- The shape of a whole row of words. Members with commas between them form a tuple. -/
def whole (fuel : Nat) (ts : List Token) : Option Expr :=
  match expr fuel ts with
  | some (e, []) => some e
  | some (e, .mark ',' :: rest) => (members fuel rest).map fun es => .tuple (e :: es)
  | _ => none

/-- The shape of a text, if it is a literal. -/
def parse (cs : List Char) : Option Expr :=
  match tokens cs with
  | none => none
  | some ts =>
    if cs.contains '\x00' || !withinBrackets 0 ts then none
    else whole (4 * ts.length + 8) ts

end PoissonFactor.Literal
