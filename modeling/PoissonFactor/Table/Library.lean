import PoissonFactor.Table.Frame

/-!
# Tables of another library

Downloaded tables are read, converted and written by a library of its own, and nothing else of the
program depends on how it does so: it is a parameter (`TableLibrary`). A column that is read has a
type that the library finds, and the program asks for texts or doubles where it needs them.

The programs of this library use `TableLibrary.standard`, the functions for columns and frames that
are defined here.
-/

namespace PoissonFactor

/-- The functions of a library of tables. -/
class TableLibrary where
  /-- The table of a file's bytes, with as many rows as the limit allows. The columns with the names
  that are given are kept as texts. -/
  read (textNames : List String) (limit : Value) (bytes : List UInt8) : Except Failure Frame
  /-- The bytes of the file that a table is written to. -/
  write (f : Frame) : List UInt8
  /-- A column with every entry as text. -/
  toTexts (c : Column) : Column
  /-- A column with every entry as a double. -/
  toDoubles (c : Column) : Except Failure Column

/-- The functions for frames and columns that are defined here. -/
abbrev TableLibrary.standard : TableLibrary where
  read := Frame.ofBytes
  write f := f.text.toUTF8.toList
  toTexts := Column.toTexts
  toDoubles := Column.toDoubles

end PoissonFactor
