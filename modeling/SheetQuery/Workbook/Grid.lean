import SheetQuery.ResultSet
import SheetQuery.Text.Blank
import SheetQuery.Text.Casing

/-!
# Grids of cells

A worksheet is a grid: rows of cells, some longer than others. A rectangle between two cell
positions cuts a smaller grid out of it, in which every row has the width of the rectangle. Read as
a table, a grid has a name for each column, from its first row or from the positions.
-/

namespace SheetQuery

/-- Rows of cells, from the top. -/
abbrev Grid := List (List Value)

/-- A cell of a grid, counted from zero. -/
structure CellPosition where
  row : Nat
  column : Nat
  deriving DecidableEq, Repr

namespace CellPosition

/-- The value of a letter in a column reference. -/
def letterValue (c : Char) : Nat :=
  c.toNat - 'A'.toNat + 1

/-- The number that capital letters stand for, from 1 for `A` over 26 for `Z` to 27 for `AA`. -/
def columnNumber (letters : List Char) : Nat :=
  letters.foldl (fun n c => n * 26 + letterValue c) 0

/-- The rows that a reference can name. -/
def rowLimit : Nat :=
  Nat.pow 2 64

/-- The position that a reference such as `B3` names; rows count from 1. -/
def read? (s : List Char) : Option CellPosition :=
  let letters := s.takeWhile (!·.isDigit)
  if letters.isEmpty || !letters.all Char.isAlpha then none
  else match Decimal.readDigits? (s.dropWhile (!·.isDigit)) with
    | some row =>
      if 1 ≤ row ∧ row < rowLimit then some ⟨row - 1, columnNumber (Text.upperAscii letters) - 1⟩
      else none
    | none => none

end CellPosition

namespace Grid

/-- The positions from `first` to `last`, none where `last` comes before. -/
def span (first last : Nat) : List Nat :=
  List.range' first (last + 1 - first)

/-- The cells of a row in the columns from `first` to `last`, filled up with nothing. -/
def cells (first last : Nat) (row : List Value) : List Value :=
  (span first last).map fun i => (row[i]?).getD .null

/-- The rectangle between two positions. Rows below the grid are not part of it. -/
def slice (grid : Grid) (start stop : CellPosition) : Grid :=
  ((grid.drop start.row).take (stop.row + 1 - start.row)).map (cells start.column stop.column)

/-- The length of the longest row. -/
def width (grid : Grid) : Nat :=
  grid.foldl (fun n row => max n row.length) 0

/-- A row filled up with nothing to the width. -/
def padded (width : Nat) (row : List Value) : List Value :=
  row ++ List.replicate (width - row.length) .null

/-- The grid with all rows of one length. -/
def squared (grid : Grid) : Grid :=
  grid.map (padded grid.width)

/-- The names of the first `n` columns from their positions. -/
def positionNames (n : Nat) : List String :=
  (List.range n).map positionName

/-- The name of a column under a header cell; a blank cell leaves the column to its position. -/
def headerName (cell : Value) (i : Nat) : String :=
  if Text.allBlank cell.chars then positionName i else cell.display

/-- The names of the columns under a header row. -/
def headerNames (header : List Value) : List String :=
  header.zipIdx.map fun (cell, i) => headerName cell i

/-- The grid as a table. With a header the first row gives the names. -/
def toTable (grid : Grid) (hasHeader : Bool) : ResultSet :=
  match hasHeader, grid.squared with
  | true, header :: rows => ⟨headerNames header, rows⟩
  | _, rows => ⟨positionNames grid.width, rows⟩

end Grid

end SheetQuery
