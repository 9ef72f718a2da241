import PoissonFactor.Text.Blank
import PoissonFactor.Value.Number

/-!
# Numbers written as text

The grammar of numbers in settings, tables and on the command line. An integer is
a sign and digits; a decimal has digits around an optional point and an optional
exponent, or is one of the words for infinity and for what is no number. Single
underscores may stand between digits and blanks around the whole. The digits of
any script count. A text with a character beyond the seven-bit range may be padded
with any blank, a purely seven-bit text only with the blanks of that range.
-/

namespace PoissonFactor.Numeral

open Text

/-- The most digits an integer may be written with. -/
def digitLimit : Nat := 4300

/-- A text with its blanks made spaces and its digits made ASCII, when it goes beyond the
seven-bit range. -/
def normalize (cs : List Char) : List Char :=
  if cs.all fun c => c.toNat < 128 then cs
  else cs.map fun c =>
    if c.toNat < 127 then c
    else if isBlank c then ' '
    else
      match decimalValue? c with
      | some d => Char.ofNat (48 + d)
      | none => '?'

/-- A text ready to be read as a number: digits made ASCII, blanks at the ends dropped. -/
def prepare (cs : List Char) : List Char :=
  trimBy isAsciiBlank (normalize cs)

/-- The sign at the front of a text and what follows it. -/
def sign : List Char → Bool × List Char
  | '-' :: cs => (true, cs)
  | '+' :: cs => (false, cs)
  | cs => (false, cs)

/-- Drops the underscores of a text if each stands between two digits. `previous` tells whether
a digit came just before. -/
def dropUnderscores (previous : Bool) : List Char → Option (List Char)
  | [] => some []
  | '_' :: c :: cs =>
    if previous && c.isDigit then (dropUnderscores true cs).map (c :: ·) else none
  | c :: cs =>
    if c = '_' then none else (dropUnderscores c.isDigit cs).map (c :: ·)

/-- The number that a run of ASCII digits spells. -/
def digitsValue (cs : List Char) : Nat :=
  cs.foldl (fun n c => n * 10 + (c.toNat - 48)) 0

/-- The most characters of a text that is no integer that a message shows. -/
def shownLimit : Nat := 200

/-- Reads a text as an integer. `shown` is the text as messages show it. Too many digits are
refused before what comes behind them is looked at. -/
def integer (shown : String) (cs : List Char) : Except Failure Int :=
  let (negative, rest) := sign (prepare cs)
  let run := rest.takeWhile fun c => c.isDigit || c = '_'
  let fault : Failure := .notAnInteger (String.ofList (shown.toList.take shownLimit))
  match dropUnderscores false run with
  | none => .error fault
  | some ds =>
    if digitLimit < ds.length then .error (.tooManyDigits ds.length)
    else if ds.isEmpty || run.length < rest.length then .error fault
    else .ok (if negative then -(digitsValue ds : Int) else digitsValue ds)

/-- A word in lower case. No character beyond ASCII has a lower case among the letters of the
words this library knows. -/
def lower (cs : List Char) : List Char :=
  cs.map Char.toLower

/-- The exponent at the end of a decimal: nothing, or a mark, a sign and digits. -/
def exponent? : List Char → Option Int
  | [] => some 0
  | c :: cs =>
    if c = 'e' || c = 'E' then
      let (negative, ds) := sign cs
      if !ds.isEmpty && ds.all Char.isDigit then
        some (if negative then -(digitsValue ds : Int) else digitsValue ds)
      else none
    else none

/-- An unsigned decimal: digits, a point with digits, an exponent. The result is
`digits · 10^exponent`. -/
def decimal? (cs : List Char) : Option (Nat × Int) :=
  let whole := cs.takeWhile Char.isDigit
  let rest := cs.dropWhile Char.isDigit
  let fraction := match rest with
    | '.' :: r => r.takeWhile Char.isDigit
    | _ => []
  let tail := match rest with
    | '.' :: r => r.dropWhile Char.isDigit
    | _ => rest
  if whole.isEmpty && fraction.isEmpty then none
  else (exponent? tail).map fun x => (digitsValue (whole ++ fraction), x - fraction.length)

/-- Reads a prepared text as a double. -/
def double? (cs : List Char) : Option Float :=
  match dropUnderscores false cs with
  | none => none
  | some cs =>
    let (negative, rest) := sign cs
    let word := lower rest
    if word = "inf".toList || word = "infinity".toList then
      some (Decimal.ofPattern negative Decimal.infinityBits)
    else if word = "nan".toList then some Decimal.notANumber
    else (decimal? rest).map fun (d, x) => Decimal.ofDecimal negative d x

/-- Reads a text as a double. `shown` is the text as messages show it. -/
def double (shown : String) (cs : List Char) : Except Failure Float :=
  match double? (prepare cs) with
  | some x => .ok x
  | none => .error (.notADecimal shown)

end PoissonFactor.Numeral

namespace PoissonFactor.Value

/-- Code points as characters. No number is written with a surrogate, so these are made question
marks. -/
def pointChars (ps : List Text.Point) : List Char :=
  ps.map fun p => p.char?.getD '?'

/-- Bytes as the characters of the same values. -/
def bytesChars (b : List UInt8) : List Char :=
  b.map fun x => Char.ofNat x.toNat

/-- The integer a value converts to: the whole part of a number, or the integer that a text
spells. -/
def toInt (v : Value) : Except Failure Int :=
  match v with
  | .str s => Numeral.integer v.shown s.toList
  | .illformed t => Numeral.integer v.shown (pointChars t.points)
  | .bytes b => Numeral.integer v.shown (bytesChars b)
  | _ =>
    match v.number? with
    | some n => n.truncate?
    | none => .error (.noInteger v.kind)

/-- The double a value converts to: the nearest to a number, or the one that a text spells. -/
def toFloat (v : Value) : Except Failure Float :=
  match v with
  | .str s => Numeral.double v.shown s.toList
  | .illformed t => Numeral.double v.shown (pointChars t.points)
  | .bytes b => Numeral.double v.shown (bytesChars b)
  | _ =>
    match v.number? with
    | some n => n.toFloat?
    | none => .error (.noDecimal v.kind)

end PoissonFactor.Value
