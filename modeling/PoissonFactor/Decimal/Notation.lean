import PoissonFactor.Decimal.Digits

/-!
# How doubles are written

A `Style` holds the choices of a written form: where positional notation ends and
how the special values are spelled. `plain` is the style of every number in
messages, tables and reports: the shortest digits, positional from `0.0001` up to
below `10^16`, a point always present. `fixed` and `general` are the two forms of
the progress lines.
-/

namespace PoissonFactor.Decimal

/-- The decimal digits of a number, most significant first. -/
def digitChars (n : Nat) : List Char :=
  Nat.toDigits 10 n

/-- A run of digits as text, padded on the left with zeros to `width`. -/
def padded (width n : Nat) : List Char :=
  let cs := digitChars n
  List.replicate (width - cs.length) '0' ++ cs

/-- An exponent: the mark, a sign and at least two digits. -/
def exponentText (x : Int) : List Char :=
  'e' :: (if x < 0 then '-' else '+') :: padded 2 x.natAbs

/-- Digits with the point placed by position, for example `0.001`, `12.5`, `300.0`. The flag
says whether a whole number keeps `.0`. -/
def positional (keepPoint : Bool) (d : Digits) : List Char :=
  let cs := digitChars d.digits
  if 0 ≤ d.exponent then
    cs ++ List.replicate d.exponent.toNat '0' ++ (if keepPoint then ['.', '0'] else [])
  else
    let after := (-d.exponent).toNat
    let cs := List.replicate (after + 1 - cs.length) '0' ++ cs
    cs.take (cs.length - after) ++ '.' :: cs.drop (cs.length - after)

/-- Digits with one of them before the point and an exponent, for example `1e-07`, `1.5e+22`. -/
def scientific (d : Digits) : List Char :=
  match digitChars d.digits with
  | [] => []
  | c :: rest =>
    let x := d.exponent + rest.length
    (if rest.isEmpty then [c] else c :: '.' :: rest) ++ exponentText x

/-- The choices of a written form. -/
structure Style where
  /-- The least decimal exponent written by position. -/
  least : Int
  /-- The first decimal exponent too large to be written by position. -/
  bound : Int
  /-- Whether a whole number keeps `.0`. -/
  keepPoint : Bool
  /-- How the value that is not a number is spelled. -/
  nan : String
  /-- How infinity is spelled. -/
  infinity : String

/-- A finite positive number in a style. -/
def Style.digits (s : Style) (d : Digits) : List Char :=
  let x := d.exponent + (digitChars d.digits).length - 1
  if s.least ≤ x ∧ x < s.bound then positional s.keepPoint d else scientific d

/-- Puts a minus sign in front of a negative number. -/
def signed (negative : Bool) (cs : List Char) : List Char :=
  if negative then '-' :: cs else cs

/-- A double in a style, its digits chosen by `pick`. -/
def Style.write (s : Style) (pick : Nat → Int → Digits) (x : Float) : String :=
  match parts x with
  | .nan => s.nan
  | .infinite negative => String.ofList (signed negative s.infinity.toList)
  | .finite negative m q =>
    String.ofList (signed negative (s.digits (if m = 0 then ⟨0, 0⟩ else pick m q)))

/-- Positional from `0.0001` to below `10^16`, a point always present. -/
def plainStyle : Style :=
  { least := -4, bound := 16, keepPoint := true, nan := "nan", infinity := "inf" }

/-- The shortest text that reads back as the double. -/
def plain (x : Float) : String :=
  plainStyle.write shortest x

/-- The double with exactly `n` decimal places. -/
def fixed (n : Nat) (x : Float) : String :=
  match parts x with
  | .nan => "nan"
  | .infinite negative => if negative then "-inf" else "inf"
  | .finite negative m q => String.ofList (signed negative (positional false (places m q n)))

/-- The double to `n` significant digits without trailing zeros; positional from `0.0001` to
below `10^n`. -/
def general (n : Nat) (x : Float) : String :=
  let s : Style := { least := -4, bound := n, keepPoint := false, nan := "nan", infinity := "inf" }
  s.write (fun m q => (significant m q n).trim n) x

end PoissonFactor.Decimal
