import PoissonFactor.Literal.Escape
import PoissonFactor.Value.Numeral

/-!
# The words of a literal

A literal is a row of words: numbers, quoted texts, names, brackets and a few signs.
`next?` takes one word off the front; a number word is the longest run its grammar
allows and must not run into a letter. Spaces and tabs separate words and `#` ends
the row.
-/

namespace PoissonFactor.Literal

variable [Text.CharacterNames]

/-- A word of a literal. -/
inductive Token where
  | integer (n : Nat)
  | decimal (x : Float)
  | imaginary (x : Float)
  | text (ps : List Text.Point)
  | bytes (b : List UInt8)
  /-- A text with places to be filled in, which is no constant. -/
  | formatted
  | name (cs : List Char)
  /-- Three dots. -/
  | dots
  /-- A bracket or sign. -/
  | mark (c : Char)

/-- May the character begin a name? -/
def beginsName (c : Char) : Bool :=
  c.isAlpha || c == '_' || 128 ≤ c.toNat

/-- May the character stand inside a name? -/
def insideName (c : Char) : Bool :=
  beginsName c || c.isDigit

/-- A run of digits of a class with single underscores between them, and what follows. A
leading underscore is taken when `previous` says that a digit came before it. -/
def digitRun (p : Char → Bool) (previous : Bool) : List Char → List Char × List Char
  | [] => ([], [])
  | '_' :: c :: rest =>
    if previous && p c then
      let (ds, after) := digitRun p true rest
      (c :: ds, after)
    else ([], '_' :: c :: rest)
  | c :: rest =>
    if p c then
      let (ds, after) := digitRun p true rest
      (c :: ds, after)
    else ([], c :: rest)

/-- The exponent at the front, if digits follow its mark: its value and what follows. -/
def exponentPart (cs : List Char) : Option (Int × List Char) :=
  match cs with
  | [] => none
  | c :: rest =>
    if c = 'e' || c = 'E' then
      let (negative, after) := Numeral.sign rest
      match digitRun Char.isDigit false after with
      | ([], _) => none
      | (ds, after) =>
        let n : Nat := Numeral.digitsValue ds
        some (if negative then -(n : Int) else n, after)
    else none

/-- Finishes a number: nothing that belongs to a name or number may follow directly. -/
def finish (t : Token) (rest : List Char) : Option (Token × List Char) :=
  match rest with
  | c :: _ => if insideName c then none else some (t, rest)
  | [] => some (t, rest)

/-- A number in a base other than ten, after its mark. -/
def based (base : Nat) (p : Char → Bool) (cs : List Char) : Option (Token × List Char) :=
  -- an underscore may follow the mark
  match digitRun p true cs with
  | ([], _) => none
  | (ds, rest) =>
    finish (.integer (ds.foldl (fun n c => n * base + (hexValue? c).getD 0) 0)) rest

/-- A decimal or imaginary number from its digits, or an integer when neither a point nor an
exponent was seen. -/
def decimalToken (whole fraction : List Char) (exponent : Int) (isDecimal : Bool)
    (rest : List Char) : Option (Token × List Char) :=
  let x := Decimal.ofDecimal false (Numeral.digitsValue (whole ++ fraction))
    (exponent - fraction.length)
  match rest with
  | c :: after =>
    if c = 'j' || c = 'J' then finish (.imaginary x) after
    else if isDecimal then finish (.decimal x) rest
    else integer
  | [] => if isDecimal then some (.decimal x, rest) else integer
where
  /-- The digits as an integer: a leading zero only when all are zeros. -/
  integer : Option (Token × List Char) :=
    if whole.head? = some '0' && whole.any (· != '0') then none
    else if Numeral.digitLimit < whole.length then none
    else finish (.integer (Numeral.digitsValue whole)) rest

/-- A number in base ten whose whole part has been read. -/
def afterWhole (whole cs : List Char) : Option (Token × List Char) :=
  let (fraction, rest, point) :=
    match cs with
    | '.' :: after =>
      let (ds, rest) := digitRun Char.isDigit false after
      (ds, rest, true)
    | _ => ([], cs, false)
  match exponentPart rest with
  | some (x, after) => decimalToken whole fraction x true after
  | none => decimalToken whole fraction 0 point rest

/-- A number that begins with a digit or with a point before a digit. -/
def number (cs : List Char) : Option (Token × List Char) :=
  match cs with
  | '0' :: c :: rest =>
    if c = 'x' || c = 'X' then based 16 (fun c => (hexValue? c).isSome) rest
    else if c = 'o' || c = 'O' then based 8 isOctal rest
    else if c = 'b' || c = 'B' then based 2 (fun c => c = '0' || c = '1') rest
    else
      let (whole, rest) := digitRun Char.isDigit false cs
      afterWhole whole rest
  | _ =>
    let (whole, rest) := digitRun Char.isDigit false cs
    afterWhole whole rest

/-- The characters up to the closing quote and what follows it. A backslash takes the next
character with it. -/
def shortBody (quote : Char) : List Char → Option (List Char × List Char)
  | [] => none
  | '\\' :: c :: rest => (shortBody quote rest).map fun (b, after) => ('\\' :: c :: b, after)
  | c :: rest =>
    if c = quote then some ([], rest)
    else (shortBody quote rest).map fun (b, after) => (c :: b, after)

/-- The characters up to three closing quotes and what follows them. -/
def longBody (quote : Char) : List Char → Option (List Char × List Char)
  | [] => none
  | '\\' :: c :: rest => (longBody quote rest).map fun (b, after) => ('\\' :: c :: b, after)
  | c :: rest =>
    if c = quote && rest.take 2 == [quote, quote] then some ([], rest.drop 2)
    else (longBody quote rest).map fun (b, after) => (c :: b, after)

/-- The characters between the quotes at the front and what follows. -/
def quotedBody : List Char → Option (List Char × List Char)
  | q :: rest =>
    if rest.take 2 == [q, q] then longBody q (rest.drop 2) else shortBody q rest
  | [] => none

/-- What the letters before a quote ask for. -/
structure Marks where
  raw : Bool
  bytes : Bool
  formatted : Bool

/-- The letters that may stand before a quote, in either case. -/
def marks? (cs : List Char) : Option Marks :=
  let word := String.ofList (cs.map Char.toLower)
  if word = "" || word = "u" then some ⟨false, false, false⟩
  else if word = "r" then some ⟨true, false, false⟩
  else if word = "b" then some ⟨false, true, false⟩
  else if word = "br" || word = "rb" then some ⟨true, true, false⟩
  else if word = "f" || word = "fr" || word = "rf" then some ⟨false, false, true⟩
  else none

/-- The token of a quoted text. -/
def quotedToken (m : Marks) (body : List Char) : Option Token :=
  if m.formatted then some .formatted
  else if m.bytes then
    if body.all fun c => c.toNat < 128 then
      (if m.raw then some (body.map Char.toNat) else unescapeBytes body).map fun codes =>
        .bytes (codes.map UInt8.ofNat)
    else none
  else if m.raw then some (.text (Text.pointsOf body))
  else ((unescape body).bind points?).map .text

/-- A name, or a quoted text whose marks have been read. -/
def word (cs : List Char) : Option (Token × List Char) :=
  let letters := cs.takeWhile insideName
  let rest := cs.dropWhile insideName
  match rest with
  | q :: _ =>
    if q = '\'' || q = '"' then
      match marks? letters, quotedBody rest with
      | some m, some (body, after) => (quotedToken m body).map fun t => (t, after)
      | _, _ => none
    else some (.name letters, rest)
  | [] => some (.name letters, rest)

/-- The signs that are words by themselves. -/
def isMark (c : Char) : Bool :=
  c == '(' || c == ')' || c == '[' || c == ']' || c == '\x7b' || c == '\x7d' || c == ',' || c == ':'
    || c == '+' || c == '-'

/-- The first word of a text that does not begin with a blank, and what follows it. -/
def next? (cs : List Char) : Option (Token × List Char) :=
  match cs with
  | [] => none
  | c :: rest =>
    if c.isDigit then number cs
    else if c = '.' then
      match rest with
      | d :: after =>
        if d.isDigit then number cs
        else if d = '.' && after.head? = some '.' then some (.dots, after.drop 1)
        else none
      | [] => none
    else if beginsName c || c = '\'' || c = '"' then word cs
    else if isMark c then some (.mark c, rest)
    else none

/-- The words of a text, or nothing if some part is no word. -/
def tokens (cs : List Char) : Option (List Token) :=
  match cs with
  | [] => some []
  | c :: rest =>
    if c = ' ' || c = '\t' then tokens rest
    else if c = '#' then some []
    else
      match next? (c :: rest) with
      | some (t, after) =>
        if _h : after.length ≤ rest.length then (tokens after).map (t :: ·) else none
      | none => none
termination_by cs.length
decreasing_by all_goals (simp only [List.length_cons]; omega)

end PoissonFactor.Literal
