import PoissonFactor.Text.Names
import PoissonFactor.Text.Points
import PoissonFactor.Text.Utf8

/-!
# Escapes inside quoted text

Between its quotes a literal holds characters and escapes. An escape is a backslash
and a letter, up to three octal digits, `x`, `u`, `U` with two, four or eight
hexadecimal digits, or `N` with the name of a character between braces; a backslash
before anything else stands for itself. `unescape`
reads the characters of a text literal as code points, the surrogates among them;
`unescapeBytes` reads a byte literal, where only seven-bit characters and the two-digit
form occur.
-/

namespace PoissonFactor.Literal

variable [Text.CharacterNames]

/-- The value of a hexadecimal digit. -/
def hexValue? (c : Char) : Option Nat :=
  if c.isDigit then some (c.toNat - 48)
  else if 'a' ≤ c && c ≤ 'f' then some (c.toNat - 87)
  else if 'A' ≤ c && c ≤ 'F' then some (c.toNat - 55)
  else none

/-- The number that hexadecimal digits spell. -/
def hexNumber? (cs : List Char) : Option Nat :=
  cs.foldlM (fun n c => (hexValue? c).map (n * 16 + ·)) 0

/-- Is the character an octal digit? -/
def isOctal (c : Char) : Bool :=
  '0' ≤ c && c ≤ '7'

/-- The number that octal digits spell. -/
def octalNumber (cs : List Char) : Nat :=
  cs.foldl (fun n c => n * 8 + (c.toNat - 48)) 0

/-- The code of an escape of a single letter or sign. -/
def simpleEscape? (c : Char) : Option Nat :=
  if c = '\\' || c = '\'' || c = '"' then some c.toNat
  else if c = 'a' then some 7
  else if c = 'b' then some 8
  else if c = 'f' then some 12
  else if c = 'n' then some 10
  else if c = 'r' then some 13
  else if c = 't' then some 9
  else if c = 'v' then some 11
  else none

/-- Exactly `n` hexadecimal digits and what follows them. -/
def hexEscape? (n : Nat) (cs : List Char) : Option (Nat × List Char) :=
  if cs.length < n then none
  else (hexNumber? (cs.take n)).map fun code => (code, cs.drop n)

/-- The octal digits at the front, three at most. -/
def octalDigits (cs : List Char) : List Char :=
  (cs.take 3).takeWhile isOctal

/-- The code of the character whose name stands between braces, and what follows them. -/
def nameEscape? (cs : List Char) : Option (List Nat × List Char) :=
  match cs with
  | '\x7b' :: rest =>
    match rest.dropWhile (· ≠ '\x7d') with
    | [] => none
    | _ :: after =>
      (Text.CharacterNames.named? (rest.takeWhile (· ≠ '\x7d'))).map fun c => ([c.toNat], after)
  | _ => none

/-- What the characters after a backslash stand for in a text, and what follows the escape. -/
def escape? : List Char → Option (List Nat × List Char)
  | [] => none
  | c :: rest =>
    match simpleEscape? c with
    | some code => some ([code], rest)
    | none =>
      if isOctal c then
        let ds := octalDigits (c :: rest)
        some ([octalNumber ds], (c :: rest).drop ds.length)
      else if c = 'x' then (hexEscape? 2 rest).map fun (code, r) => ([code], r)
      else if c = 'u' then (hexEscape? 4 rest).map fun (code, r) => ([code], r)
      else if c = 'U' then
        match hexEscape? 8 rest with
        | some (code, r) => if code < 0x110000 then some ([code], r) else none
        | none => none
      else if c = 'N' then nameEscape? rest
      else some (['\\'.toNat, c.toNat], rest)

/-- The code points of a text literal, by their numbers. -/
def unescape (cs : List Char) : Option (List Nat) :=
  match cs with
  | [] => some []
  | c :: rest =>
    if c = '\\' then
      match escape? rest with
      | some (codes, after) =>
        if _h : after.length ≤ rest.length then (unescape after).map (codes ++ ·) else none
      | none => none
    else (unescape rest).map (c.toNat :: ·)
termination_by cs.length
decreasing_by all_goals (simp only [List.length_cons]; omega)

/-- The code points with these numbers. -/
def points? (ns : List Nat) : Option (List Text.Point) :=
  ns.mapM Text.Point.ofNat?

/-- What the characters after a backslash stand for in a byte literal, and what follows. -/
def byteEscape? : List Char → Option (List Nat × List Char)
  | [] => none
  | c :: rest =>
    match simpleEscape? c with
    | some code => some ([code], rest)
    | none =>
      if isOctal c then
        let ds := octalDigits (c :: rest)
        some ([octalNumber ds % 256], (c :: rest).drop ds.length)
      else if c = 'x' then (hexEscape? 2 rest).map fun (code, r) => ([code], r)
      else some (['\\'.toNat, c.toNat], rest)

/-- The bytes of a byte literal with escapes. -/
def unescapeBytes (cs : List Char) : Option (List Nat) :=
  match cs with
  | [] => some []
  | c :: rest =>
    if c = '\\' then
      match byteEscape? rest with
      | some (codes, after) =>
        if _h : after.length ≤ rest.length then (unescapeBytes after).map (codes ++ ·) else none
      | none => none
    else (unescapeBytes rest).map (c.toNat :: ·)
termination_by cs.length
decreasing_by all_goals (simp only [List.length_cons]; omega)

end PoissonFactor.Literal
