import PoissonFactor.Decimal.Scaled
import PoissonFactor.Value.Numeral
import PoissonFactor.Value.Order

/-!
# Columns of a table

A column has one type, found from what it holds: integers, doubles, flags or texts,
or values of any kind when nothing else fits. Values that are missing turn a column
of integers into one of doubles; a text that is missing reads as the double that is
no number.
-/

namespace PoissonFactor

/-- A column with one type. -/
inductive Column where
  | integers (xs : List Int)
  | doubles (xs : List Float)
  | flags (xs : List Bool)
  | texts (xs : List (Option String))
  | mixed (xs : List Value)

namespace Column

/-- What a missing entry reads as. -/
def missing : Value := .float Decimal.notANumber

/-- The entries of a column. -/
def values : Column → List Value
  | .integers xs => xs.map .int
  | .doubles xs => xs.map .float
  | .flags xs => xs.map .bool
  | .texts xs => xs.map fun
    | some s => .str s
    | none => missing
  | .mixed xs => xs

/-- Is a value missing? -/
def isMissing : Value → Bool
  | .null => true
  | .float x => Decimal.isNaN x
  | _ => false

/-- Is a value absent altogether? -/
def isAbsent : Value → Bool
  | .null => true
  | _ => false

/-- The least and the first too large of the signed integers of 64 bits. -/
def fitsSigned (i : Int) : Bool :=
  -(2 ^ 63) ≤ i && i < 2 ^ 63

/-- Is an integer one of the unsigned integers of 64 bits? -/
def fitsUnsigned (i : Int) : Bool :=
  0 ≤ i && i < 2 ^ 64

/-- Do integers fit one type of 64 bits? -/
def fit (xs : List Int) : Bool :=
  xs.all fitsSigned || xs.all fitsUnsigned

/-- A number or nothing as a double. -/
def double : Value → Float
  | .int i => Decimal.ofInteger i
  | .float x => x
  | _ => Decimal.notANumber

/-- A text or nothing. -/
def optionalText : Value → Option String
  | .str s => some s
  | _ => none

/-- The column of a list of values. -/
def ofValues (vs : List Value) : Column :=
  let present := vs.filter fun v => !isMissing v
  -- behind an absent value the sizes of integers do not count
  let integers := (vs.takeWhile fun v => !isAbsent v).filterMap Value.integer?
  let isDouble (v : Value) : Bool := match v with
    | .float _ => true
    | _ => false
  if vs.isEmpty then .mixed []
  else if vs.all isMissing then
    if vs.any isDouble then .doubles (vs.map double) else .mixed vs
  else if vs.all fun v => v.integer?.isSome then
    if fit integers then .integers integers else .mixed vs
  else if present.all fun v => v.integer?.isSome || isDouble v then
    if fit integers then .doubles (vs.map double) else .mixed vs
  else if present.all Value.isText then
    -- a text with a surrogate fits no column of strings
    if present.all fun v => (optionalText v).isSome then .texts (vs.map optionalText)
    else .mixed (vs.map fun v => if isMissing v then missing else v)
  else
    match vs.mapM fun | .bool b => some b | _ => none with
    | some bs => .flags bs
    | none => .mixed vs

/-- The texts that stand for a missing entry. -/
def missingTexts : List String :=
  ["", "#N/A", "#N/A N/A", "#NA", "-1.#IND", "-1.#QNAN", "-NaN", "-nan", "1.#IND", "1.#QNAN",
    "<NA>", "N/A", "NA", "NULL", "NaN", "None", "n/a", "nan", "null"]

/-- A text of a table, or nothing when it stands for a missing entry. -/
def present? (cs : List Char) : Option (List Char) :=
  if missingTexts.contains (String.ofList cs) then none else some cs

/-- An integer between blanks. -/
def integer? (cs : List Char) : Option Int :=
  let (negative, ds) := Numeral.sign (Text.trimBy Text.isAsciiBlank cs)
  if !ds.isEmpty && ds.all Char.isDigit then
    some (if negative then -(Numeral.digitsValue ds : Int) else Numeral.digitsValue ds)
  else none

/-- The words for infinity. -/
def infinite? (cs : List Char) : Option Float :=
  let (negative, rest) := Numeral.sign cs
  let word := Numeral.lower rest
  if word = "inf".toList || word = "infinity".toList then
    some (Decimal.ofPattern negative Decimal.infinityBits)
  else none

/-- A decimal between blanks. -/
def decimal? (cs : List Char) : Option Float :=
  let (negative, rest) := Numeral.sign (Text.trimBy Text.isAsciiBlank cs)
  let whole := rest.takeWhile Char.isDigit
  let rest := rest.dropWhile Char.isDigit
  let (fraction, tail) := match rest with
    | '.' :: r => (r.takeWhile Char.isDigit, r.dropWhile Char.isDigit)
    | _ => ([], rest)
  if whole.isEmpty && fraction.isEmpty then none
  else (Numeral.exponent? tail).bind fun x => Decimal.readScaled? negative whole fraction x

/-- A double as a table writes it. -/
def double? (cs : List Char) : Option Float :=
  (decimal? cs).or (infinite? cs)

/-- A flag as a table writes it. -/
def flag? (cs : List Char) : Option Bool :=
  let word := Numeral.lower cs
  if word = "true".toList then some true
  else if word = "false".toList then some false
  else none

/-- Reads every entry that is present; nothing when one cannot be read. -/
def readAll {α : Type} (read : List Char → Option α) (xs : List (Option (List Char))) :
    Option (List (Option α)) :=
  xs.mapM fun
    | none => some none
    | some cs => (read cs).map some

/-- Texts as they are. -/
def asTexts (xs : List (Option (List Char))) : Column :=
  .texts (xs.map fun x => x.map String.ofList)

/-- A column of integers that may be missing. Integers beyond 64 bits stay texts, and so do
unsigned ones beside missing entries. -/
def ofIntegers (xs : List (Option (List Char))) (is : List (Option Int)) : Column :=
  let found := is.filterMap id
  if found.all fitsSigned then
    if is.all Option.isSome then .integers found
    else .doubles (is.map fun
      | some i => Decimal.ofInteger i
      | none => Decimal.notANumber)
  else if is.all Option.isSome && found.all fitsUnsigned then .integers found
  else asTexts xs

/-- The column of the texts of a table. -/
def ofTexts (cells : List (List Char)) : Column :=
  let xs := cells.map present?
  if cells.isEmpty then .mixed []
  else
    match readAll integer? xs with
    | some is => ofIntegers xs is
    | none =>
      match readAll double? xs with
      | some ds => .doubles (ds.map fun d => d.getD Decimal.notANumber)
      | none =>
        match readAll flag? xs with
        | some bs =>
          if bs.all Option.isSome then .flags (bs.filterMap id)
          else .mixed (bs.map fun
            | some b => .bool b
            | none => missing)
        | none => asTexts xs

/-- The column of the texts of a table, kept as texts. -/
def keepTexts (cells : List (List Char)) : Column :=
  asTexts (cells.map present?)

/-- An entry as text; one that is missing stays missing. -/
def entryText (v : Value) : Option String :=
  if isMissing v then none else some v.text

/-- A column with every entry as text. -/
def toTexts (c : Column) : Column :=
  .texts (c.values.map entryText)

/-- A column with every entry as a double. -/
def toDoubles (c : Column) : Except Failure Column := do
  return .doubles (← c.values.mapM fun v => v.toFloat)

end Column

end PoissonFactor
