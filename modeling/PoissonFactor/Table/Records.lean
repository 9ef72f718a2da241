import PoissonFactor.Failure

/-!
# Records of comma-separated fields

A record is a line of fields. A field in double quotes may hold commas, line breaks
and, written twice, double quotes; the breaks it holds are kept as they are. What
follows the closing quote up to the comma belongs to the field. A line ends with a
line feed, a carriage return or both; an empty line is a record without fields. The
reader never fails on the form of a text, only on a field that is too long.
-/

namespace PoissonFactor.Records

/-- A record. -/
abbrev Record := List (List Char)

/-- The most characters a field may have. -/
def fieldLimit : Nat := 131072

/-- Where in a record the reader stands. -/
inductive Mode where
  | startRecord
  | startField
  | inField
  | inQuotes
  /-- After a double quote inside quotes. -/
  | afterQuote
  /-- After the first character of a line break. -/
  | endRecord
deriving DecidableEq, Repr

/-- What has been read of a record: the current field and the fields before it, each with the
last first, and how long the current field is. -/
structure OpenRecord where
  field : List Char
  length : Nat
  fields : Record

/-- A record of which nothing has been read. -/
def OpenRecord.empty : OpenRecord := { field := [], length := 0, fields := [] }

/-- Ends the current field. -/
def OpenRecord.save (p : OpenRecord) : OpenRecord :=
  { field := [], length := 0, fields := p.field.reverse :: p.fields }

/-- Adds a character to the current field. -/
def OpenRecord.add (p : OpenRecord) (c : Char) : Except Failure OpenRecord :=
  if fieldLimit ≤ p.length then .error (.fieldTooLarge fieldLimit)
  else .ok { p with field := c :: p.field, length := p.length + 1 }

/-- Is the character part of a line break? -/
def isBreak (c : Char) : Bool :=
  c == '\n' || c == '\r'

/-- Reads a character at the start of a field. -/
def readFirst (p : OpenRecord) (c : Char) : Except Failure (Mode × OpenRecord) :=
  if isBreak c then .ok (.endRecord, p.save)
  else if c = '"' then .ok (.inQuotes, p)
  else if c = ',' then .ok (.startField, p.save)
  else do return (.inField, ← p.add c)

/-- Reads one character. -/
def readChar (mode : Mode) (p : OpenRecord) (c : Char) : Except Failure (Mode × OpenRecord) :=
  match mode with
  | .startRecord => if isBreak c then .ok (.endRecord, p) else readFirst p c
  | .startField => readFirst p c
  | .inField =>
    if isBreak c then .ok (.endRecord, p.save)
    else if c = ',' then .ok (.startField, p.save)
    else do return (.inField, ← p.add c)
  | .inQuotes =>
    if c = '"' then .ok (.afterQuote, p)
    else do return (.inQuotes, ← p.add c)
  | .afterQuote =>
    if c = '"' then do return (.inQuotes, ← p.add c)
    else if c = ',' then .ok (.startField, p.save)
    else if isBreak c then .ok (.endRecord, p.save)
    else do return (.inField, ← p.add c)
  | .endRecord => .ok (.endRecord, p)

/-- Does a line end after this character? A carriage return before a line feed ends none. -/
def endsLine (c : Char) (rest : List Char) : Bool :=
  c == '\n' || (c == '\r' && rest.head? != some '\n')

/-- The record at the end of the text, if one was begun. -/
def last (mode : Mode) (p : OpenRecord) : List Record :=
  match mode with
  | .startRecord => []
  | .endRecord => [p.fields.reverse]
  | _ => [p.save.fields.reverse]

/-- The records of a text, and the failure that ended the reading. `atEnd` gives what becomes
of a record that the end of the text leaves open. -/
def readFrom (atEnd : Mode → OpenRecord → List Record) (mode : Mode) (p : OpenRecord) :
    List Char → List Record × Option Failure
  | [] => (atEnd mode p, none)
  | c :: rest =>
    match readChar mode p c with
    | .error cause => ([], some cause)
    | .ok (mode, p) =>
      if endsLine c rest && mode != .inQuotes then
        let (records, failure) := readFrom atEnd .startRecord .empty rest
        (p.fields.reverse :: records, failure)
      else readFrom atEnd mode p rest

/-- The records of a text. -/
def read (cs : List Char) : List Record × Option Failure :=
  readFrom last .startRecord .empty cs

/-- The records that end inside a text; one that is still open does not count. -/
def readClosed (cs : List Char) : List Record × Option Failure :=
  readFrom (fun _ _ => []) .startRecord .empty cs

/-- The text up to its last line break, as far as it is known to be one: a carriage return at
the very end may be half of one. -/
def wholeLines (cs : List Char) : List Char :=
  let back := cs.reverse
  let back := match back with
    | '\r' :: rest => rest
    | _ => back
  (back.dropWhile fun c => !isBreak c).reverse

/-- How many bytes of a file arrive at once. -/
def pieceSize : Nat := 8192

/-- The records of a file. Bytes that are no text end the reading after the last whole line
that arrived before them. -/
def readBytes (bytes : List UInt8) : List Record × Option Failure :=
  match Text.decodePieces pieceSize [] [] (bytes.map UInt8.toNat) with
  | (cs, none) => read cs
  | (cs, some e) =>
    match readClosed (wholeLines cs) with
    | (records, none) => (records, some (.undecodable e))
    | (records, some cause) => (records, some cause)

end PoissonFactor.Records
