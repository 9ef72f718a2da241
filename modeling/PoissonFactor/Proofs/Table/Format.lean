import PoissonFactor.Proofs.Table.Records
import PoissonFactor.Table.Delimited

/-!
# How tables are written

There are many texts for one table (`Delimited.Grid.IsWrittenAs`): a field stands there as it is or
between quotes, a line ends with a line feed or with a carriage return and a line feed, and the last
one may go without. What is said about a reader of tables is said for all of these texts.
-/

namespace PoissonFactor.Delimited

/-- The texts of a field: as it is, if it has no comma, quote or break, and in quotes. -/
inductive FieldText (cs : List Char) : List Char → Prop
  | plain (h : ∀ c ∈ cs, c ∉ [',', '"', '\n', '\r']) : FieldText cs cs
  | quoted : FieldText cs (Records.quoted cs)

/-- The texts of a row: its fields with commas between them. -/
inductive RowText : List (List Char) → List Char → Prop
  | last {cs text : List Char} (h : FieldText cs text) : RowText [cs] text
  | cons {cs text : List Char} {fields : List (List Char)} {rest : List Char}
      (h : FieldText cs text) (hrest : RowText fields rest) :
      RowText (cs :: fields) (text ++ ',' :: rest)

/-- The texts of rows: each ends its line, and the last one may as well end the text. -/
inductive RowsText : List (List (List Char)) → List Char → Prop
  | nil : RowsText [] []
  | last {row : List (List Char)} {text : List Char} (h : RowText row text) : RowsText [row] text
  | cons {row : List (List Char)} {text lineEnd : List Char} {rows : List (List (List Char))}
      {rest : List Char} (h : RowText row text) (hend : Records.IsLineEnd lineEnd)
      (hrest : RowsText rows rest) : RowsText (row :: rows) (text ++ (lineEnd ++ rest))

/-- The names of a table as a row of fields. -/
def Grid.header (g : Grid) : List (List Char) :=
  g.names.map String.toList

/-- A text of a table: its names in the first row, and every other row as wide as that. -/
structure Grid.IsWrittenAs (g : Grid) (cs : List Char) : Prop where
  text : RowsText (g.header :: g.rows) cs
  width : ∀ row ∈ g.rows, row.length = g.names.length

/-- The fields of a column, from the first row to the last. -/
def Grid.cells (g : Grid) (name : String) : List (List Char) :=
  g.rows.map fun row => row.getD (g.names.idxOf name) []

theorem Grid.length_cells (g : Grid) (name : String) : (g.cells name).length = g.rows.length :=
  List.length_map _

end PoissonFactor.Delimited
