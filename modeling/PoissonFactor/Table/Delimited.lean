import PoissonFactor.Table.Records

/-!
# Rows of a table

A table is read more leniently than records in one way and more strictly in two:
lines that are empty or hold only spaces and tabs are skipped, quotes must be closed
before the text ends, and from the second row of values on no row may be longer than
the rows before it. Short rows are filled up with empty fields. When the first row of
values is longer than the header, what it has too much stands in front and labels the
rows.
-/

namespace PoissonFactor.Delimited

/-- Where in a row the reader stands. -/
inductive Mode where
  | startRow
  /-- Only spaces and tabs so far. -/
  | margin
  | startField
  | inField
  | inQuotes
  | afterQuote
deriving DecidableEq, Repr

/-- What has been read: the current field, the last character first; the fields before it, the
last first; and how many lines lie behind. -/
structure OpenRow where
  field : List Char
  fields : List (List Char)
  line : Nat

/-- The row with its current field ended. -/
def OpenRow.save (r : OpenRow) : OpenRow :=
  { r with field := [], fields := r.field.reverse :: r.fields }

/-- The row with one more character. -/
def OpenRow.add (r : OpenRow) (c : Char) : OpenRow :=
  { r with field := c :: r.field }

/-- A row: the number of its line, counted from one, and its fields. -/
structure Row where
  line : Nat
  fields : List (List Char)

/-- The finished row. -/
def OpenRow.finish (r : OpenRow) : Row :=
  { line := r.line + 1, fields := r.save.fields.reverse }

/-- A row of which nothing has been read. -/
def OpenRow.next (line : Nat) : OpenRow :=
  { field := [], fields := [], line }

/-- Reads a character that is no line break. -/
def readChar (mode : Mode) (r : OpenRow) (c : Char) : Mode × OpenRow :=
  let first : Mode × OpenRow :=
    if c = '"' then (.inQuotes, r)
    else if c = ',' then (.startField, r.save)
    else (.inField, r.add c)
  let plain : Mode × OpenRow :=
    if c = ',' then (.startField, r.save) else (.inField, r.add c)
  match mode with
  | .startRow => if c = ' ' || c = '\t' then (.margin, r.add c) else first
  | .margin => if c = ' ' || c = '\t' then (.margin, r.add c) else plain
  | .startField => first
  | .inField => plain
  | .inQuotes => if c = '"' then (.afterQuote, r) else (.inQuotes, r.add c)
  | .afterQuote => if c = '"' then (.inQuotes, r.add c) else plain

/-- The failure of a text that is no table. -/
def fault (detail : String) : Failure :=
  .tableSyntax ("Error tokenizing data. C error: " ++ detail)

/-- The rows of a text, and the failure that ended the reading. -/
def readFrom (mode : Mode) (r : OpenRow) : List Char → List Row × Option Failure
  | [] =>
    match mode with
    | .startRow | .margin => ([], none)
    | .inQuotes => ([], some (fault ("EOF inside string starting at row " ++ toString r.line)))
    | _ => ([r.finish], none)
  | c :: rest =>
    if Records.isBreak c && mode != .inQuotes then
      if Records.endsLine c rest then
        match mode with
        | .startRow | .margin => readFrom .startRow (.next (r.line + 1)) rest
        | _ =>
          let (rows, failure) := readFrom .startRow (.next (r.line + 1)) rest
          (r.finish :: rows, failure)
      else readFrom mode r rest
    else
      let (mode, r) := readChar mode r c
      readFrom mode r rest

/-- Fields filled up to a width. -/
def fill (width : Nat) (fields : List (List Char)) : List (List Char) :=
  fields ++ List.replicate (width - fields.length) []

/-- Rows filled up to a width, up to the first that is longer. -/
def level (width : Nat) (failure : Option Failure) :
    List Row → List (List (List Char)) × Option Failure
  | [] => ([], failure)
  | row :: rest =>
    if width < row.fields.length then
      ([], some (fault ("Expected " ++ toString width ++ " fields in line " ++ toString row.line
        ++ ", saw " ++ toString row.fields.length ++ "\n")))
    else
      let (rows, failure) := level width failure rest
      (fill width row.fields :: rows, failure)

/-- A table of texts: its column names and its rows, all as wide as the names. -/
structure Grid where
  names : List String
  rows : List (List (List Char))

/-- The names of a header; a name that is left out is made up from its position. -/
def headerNames (fields : List (List Char)) : List String :=
  fields.zipIdx.map fun (cs, i) =>
    if cs.isEmpty then "Unnamed: " ++ toString i else String.ofList cs

/-- A text without the mark that may stand before the first character. -/
def dropMark : List Char → List Char
  | '\ufeff' :: rest => rest
  | cs => cs

/-- The table of a text, with at most `limit` rows. A failure behind the rows that are wanted
does not count, but the first row is always looked at. -/
def read (limit : Option Nat) (cs : List Char) : Except Failure Grid :=
  let (all, failure) := readFrom .startRow (.next 0) (dropMark cs)
  match all with
  | [] => .error (failure.getD .emptyTable)
  | header :: rest =>
    let names := headerNames header.fields
    let first := (rest.head?.map fun row => row.fields.length).getD 0
    let width := max names.length first
    let (rows, failure) := level width failure rest
    let wanted := limit.getD (rows.length + 1)
    match failure with
    | some cause =>
      if rows.length < max 1 wanted then .error cause else .ok (grid names width (rows.take wanted))
    | none => .ok (grid names width (rows.take wanted))
where
  /-- The rows without what labels them. -/
  grid (names : List String) (width : Nat) (rows : List (List (List Char))) : Grid :=
    { names, rows := rows.map fun row => row.drop (width - names.length) }

end PoissonFactor.Delimited
