import PoissonFactor.Text.Points
import PoissonFactor.Text.Printable

/-!
# Quoted text

How a text is shown inside a message: between quotes, with every code point that
does not print written as an escape. Single quotes are used unless the text holds
a single quote and no double one. Bytes are shown the same way after a `b`, each
byte outside the printing ASCII range as an escape.
-/

namespace PoissonFactor.Text

/-- The lower-case hexadecimal digits of `n`, padded with zeros to `width`. -/
def hex (width n : Nat) : List Char :=
  let cs := Nat.toDigits 16 n
  List.replicate (width - cs.length) '0' ++ cs

/-- The quote that goes around a text. -/
def quoteFor (ps : List Point) : Char :=
  if ps.contains (.ofChar '\'') && !ps.contains (.ofChar '"') then '"' else '\''

/-- One character inside quotes. -/
def quoteChar (quote c : Char) : List Char :=
  if c = quote || c = '\\' then ['\\', c]
  else if c = '\t' then ['\\', 't']
  else if c = '\n' then ['\\', 'n']
  else if c = '\r' then ['\\', 'r']
  else if isPrintable c then [c]
  else if c.toNat < 0x100 then '\\' :: 'x' :: hex 2 c.toNat
  else if c.toNat < 0x10000 then '\\' :: 'u' :: hex 4 c.toNat
  else '\\' :: 'U' :: hex 8 c.toNat

/-- The escape of a surrogate. -/
def escapeSurrogate (p : Point) : List Char :=
  '\\' :: 'u' :: hex 4 p.val

/-- One code point inside quotes. -/
def quotePoint (quote : Char) (p : Point) : List Char :=
  match p.char? with
  | some c => quoteChar quote c
  | none => escapeSurrogate p

/-- A text between quotes. -/
def quoted (ps : List Point) : List Char :=
  let quote := quoteFor ps
  quote :: (ps.flatMap (quotePoint quote) ++ [quote])

/-- A text as characters, with an escape for every surrogate. -/
def escaped (ps : List Point) : List Char :=
  ps.flatMap fun p =>
    match p.char? with
    | some c => [c]
    | none => escapeSurrogate p

/-- One byte inside quotes. -/
def quoteByte (quote : Char) (b : UInt8) : List Char :=
  let c := Char.ofNat b.toNat
  if b < 0x80 then
    if c = quote || c = '\\' || c = '\t' || c = '\n' || c = '\r' || isPrintable c then quoteChar quote c
    else '\\' :: 'x' :: hex 2 b.toNat
  else '\\' :: 'x' :: hex 2 b.toNat

/-- Bytes between quotes, after a `b`. -/
def quotedBytes (bytes : List UInt8) : List Char :=
  let quote := quoteFor (bytes.map fun b => .ofChar (Char.ofNat b.toNat))
  'b' :: quote :: (bytes.flatMap (quoteByte quote) ++ [quote])

/-- A string between quotes. -/
def quote (s : String) : String :=
  String.ofList (quoted (pointsOf s.toList))

end PoissonFactor.Text
