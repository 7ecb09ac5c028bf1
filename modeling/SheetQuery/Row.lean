import SheetQuery.Error

/-!
# Generic rows

A row of a result as it came back: cells, addressed by column name or by position. The names are
case-sensitive and each stands for one column; a row may have fewer cells than there are names.
-/

namespace SheetQuery

/-- The first name that stands in the list before. -/
def firstRepeated? : List String → List String → Option String
  | _, [] => none
  | before, name :: rest =>
    if before.contains name then some name else firstRepeated? (before ++ [name]) rest

/-- Refuses names of which one stands for two columns. -/
def checkColumns (names : List String) : Except QueryError Unit :=
  match firstRepeated? [] names with
  | some name => .error (.configuration (.duplicateColumn name))
  | none => .ok ()

/-- A row with the names of its columns. -/
structure Row where
  columns : List String
  cells : List Value

namespace Row

/-- The position of the column of that name. -/
def position? (r : Row) (column : String) : Option Nat :=
  r.columns.findIdx? (· == column)

/-- The cell of a column; a column without a cell is refused with the names there are. -/
def get (r : Row) (column : String) : Except QueryError Value :=
  match (r.position? column).bind fun i => r.cells[i]? with
  | some v => .ok v
  | none => .error (.invalidColumnReference column r.columns)

/-- The row as a record of its columns, as far as both names and cells go. -/
def toValue (r : Row) : Value :=
  .record (r.columns.zip r.cells)

end Row

end SheetQuery
