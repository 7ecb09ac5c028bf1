import SheetQuery.Sql.Fault
import SheetQuery.Text.Search
import SheetQuery.Workbook.Grid

/-!
# Workbooks

A workbook has worksheets in the order they were added and named ranges in the order they were
declared. A range belongs to one worksheet or to the workbook; one of the workbook lies on the first
worksheet. The reference of a statement is a worksheet, a rectangle of a worksheet or a named range.
-/

namespace SheetQuery

/-- A worksheet. -/
structure Sheet where
  name : String
  grid : Grid

/-- A named rectangle, of one worksheet or of the workbook. -/
structure NamedRange where
  worksheet : Option String
  name : String
  start : CellPosition
  stop : CellPosition
  deriving DecidableEq, Repr

/-- Worksheets and named ranges. -/
structure Workbook where
  sheets : List Sheet
  ranges : List NamedRange

namespace Workbook

/-- Nothing in it. -/
def empty : Workbook :=
  ⟨[], []⟩

/-- Adds a worksheet behind the others; one of the same name goes. -/
def addGrid (w : Workbook) (name : String) (grid : Grid) : Workbook :=
  { w with sheets := w.sheets.filter (·.name != name) ++ [⟨name, grid⟩] }

/-- Adds a worksheet of rows under a header. -/
def addSheet (w : Workbook) (name : String) (header : List String) (rows : Grid) : Workbook :=
  w.addGrid name (header.map Value.text :: rows)

/-- Declares a range; ends that name no cell declare nothing. -/
def addRange (w : Workbook) (worksheet : Option String) (name start stop : String) : Workbook :=
  match CellPosition.read? start.toList, CellPosition.read? stop.toList with
  | some start, some stop => { w with ranges := w.ranges ++ [⟨worksheet, name, start, stop⟩] }
  | _, _ => w

/-- The grid of the worksheet of that name. -/
def sheet? (w : Workbook) (name : String) : Option Grid :=
  (w.sheets.find? (·.name == name)).map Sheet.grid

/-! ## Listing -/

/-- A raw name in quotes where a blank or a hyphen asks for them. -/
def quotedName (name : List Char) : List Char :=
  if name.contains ' ' || name.contains '-' then '\'' :: name ++ ['\''] else name

/-- The raw name of a worksheet. -/
def sheetName (s : Sheet) : List Char :=
  quotedName (s.name.toList ++ ['$'])

/-- The raw name of a range. -/
def rangeName (r : NamedRange) : List Char :=
  match r.worksheet with
  | some worksheet => quotedName (worksheet.toList ++ '$' :: r.name.toList)
  | none => r.name.toList

/-- The raw names of all worksheets, then of all ranges. -/
def tableNames (w : Workbook) : List String :=
  (w.sheets.map sheetName ++ w.ranges.map rangeName).map String.ofList

/-! ## Reading -/

/-- The fault of a name that nothing has. -/
def unknown {α : Type} (name : List Char) : Except Sql.Fault α :=
  .error (.unknownTable (String.ofList name))

/-- What there is, or the fault that there is nothing of that name. -/
def orUnknown {α : Type} (name : List Char) : Option α → Except Sql.Fault α
  | some a => .ok a
  | none => unknown name

/-- The range that a worksheet shows under a name: one of its own or of the workbook, whichever was
declared first. -/
def sheetRange? (w : Workbook) (worksheet name : String) : Option NamedRange :=
  w.ranges.find? fun r => r.name == name && (r.worksheet.getD worksheet == worksheet)

/-- The range of the workbook of that name. -/
def ownRange? (w : Workbook) (name : String) : Option NamedRange :=
  w.ranges.find? fun r => r.worksheet.isNone && r.name == name

/-- The rectangle that the part behind the dollar sign of a reference asks for. -/
def part (w : Workbook) (reference : List Char) (worksheet : String) (grid : Grid)
    (rest : List Char) : Except Sql.Fault Grid :=
  if rest.isEmpty then .ok grid
  else match Text.splitAtFirst? ':' rest with
    | some (start, stop) => do
      let start ← orUnknown reference (CellPosition.read? start)
      let stop ← orUnknown reference (CellPosition.read? stop)
      return grid.slice start stop
    | none => do
      let range ← orUnknown reference (w.sheetRange? worksheet (String.ofList rest))
      return grid.slice range.start range.stop

/-- The grid that a reference names: the worksheet of exactly that name, else the worksheet before
the last dollar sign and the part of it behind, else the workbook's range of that name. -/
def grid (w : Workbook) (reference : String) : Except Sql.Fault Grid :=
  match w.sheet? reference with
  | some grid => .ok grid
  | none =>
    match Text.splitAtLast? '$' reference.toList with
    | some (worksheet, rest) => do
      let grid ← orUnknown (worksheet ++ ['$']) (w.sheet? (String.ofList worksheet))
      w.part reference.toList (String.ofList worksheet) grid rest
    | none => do
      let range ← orUnknown reference.toList (w.ownRange? reference)
      let first ← orUnknown reference.toList w.sheets.head?
      return first.grid.slice range.start range.stop

/-- The table that a reference names. -/
def table (w : Workbook) (reference : String) (hasHeader : Bool) : Except Sql.Fault ResultSet :=
  (w.grid reference).map (·.toTable hasHeader)

end Workbook

end SheetQuery
