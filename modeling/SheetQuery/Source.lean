import SheetQuery.Mapper
import SheetQuery.Options
import SheetQuery.Table
import SheetQuery.Text.Search

/-!
# Sources of queries

What one query is aimed at and how it reads: the file, the part of it, whether the first row holds
column names, the mappings and the options. A source is checked once when it is made. What only the
file can tell, the name behind a worksheet's position, is found out when the source is resolved.
-/

namespace SheetQuery

/-- How a file is opened. -/
structure ConnectionSpec where
  path : String
  hasHeader : Bool
  readOnly : Bool
  deriving DecidableEq, Repr

/-- What one query reads, and how. -/
structure Source where
  file : String
  table : TableIdentity
  hasHeader : Bool
  mapper : Mapper
  options : Options

/-- The worksheet that is read when a query names neither a worksheet nor a named range. -/
def defaultWorksheet : String :=
  "Sheet1"

/-- A cell reference such as `B3`: one to three letters and one to seven digits. -/
def isCellReference (s : List Char) : Bool :=
  let letters := s.takeWhile Char.isAlpha
  let rest := s.dropWhile Char.isAlpha
  1 ≤ letters.length && letters.length ≤ 3 && 1 ≤ rest.length && rest.length ≤ 7 &&
    rest.all Char.isDigit

/-- Refuses what is no cell reference. -/
def checkCellReference (endpoint : RangeEnd) (value : String) : Except QueryError Unit :=
  if isCellReference value.toList then .ok ()
  else .error (.malformedRangeReference endpoint value)

namespace Source

/-- The file is a comma-separated one, which has one table, named like the file. -/
def isCsv (s : Source) : Bool :=
  isCsvName s.file.toList

/-- The checks on a range: both ends, and that a comma-separated file is not read without header. -/
def checkRange (s : Source) : Except QueryError Unit :=
  match s.table.range? with
  | some (start, stop) => do
    checkCellReference .start start
    checkCellReference .stop stop
    if !s.hasHeader && s.isCsv then .error (.configuration .csvRangeWithoutHeader) else .ok ()
  | none => .ok ()

/-- All checks on a source, in order. -/
def check (s : Source) : Except QueryError Unit := do
  if s.file.isEmpty then .error (.configuration .fileNameMissing)
  s.checkRange
  if s.table.worksheet? == some (.named "") then .error (.configuration .worksheetNameEmpty)

/-- The source itself once it has passed its checks. -/
def checked (s : Source) : Except QueryError Source :=
  s.check.map fun _ => s

/-- How the file is opened for this source. -/
def spec (s : Source) : ConnectionSpec :=
  ⟨s.file, s.hasHeader, s.options.readOnly⟩

/-- The name of the file without its folders. -/
def baseName (s : Source) : String :=
  match Text.splitAtLast? '/' s.file.toList with
  | some (_, name) => String.ofList name
  | none => s.file

/-- The position whose worksheet name has to be asked for. -/
def askedIndex? (s : Source) : Option Nat :=
  if s.isCsv then none
  else match s.table.worksheet? with
    | some (.positioned index) => some index
    | _ => none

/-- The worksheet that is read, given the names of the worksheets of the file. The names count only
where a position has been asked for. -/
def worksheetName (s : Source) (names : List String) : Except QueryError (Option String) :=
  if s.isCsv then .ok (some s.baseName)
  else match s.table.worksheet? with
    | some (.named name) => .ok (some name)
    | some (.positioned index) =>
      match names[index]? with
      | some name => .ok (some name)
      | none => .error (.configuration .worksheetIndexOutOfRange)
    | none => .ok (if s.table.namedRange?.isSome then none else some defaultWorksheet)

/-- The table of the source, given the names of the worksheets of the file. -/
def resolve (s : Source) (names : List String) : Except QueryError Table :=
  (s.worksheetName names).map fun worksheet => ⟨worksheet, s.table.namedRange?, s.table.range?⟩

/-- One line that lists the source. -/
def display (s : Source) : String :=
  "FileName: '" ++ s.file ++ "'; Table: " ++ s.table.listing ++
    "; NoHeader: " ++ toString (!s.hasHeader) ++ "; ColumnMappings: " ++ s.mapper.display ++
    "; Transformations: " ++ String.intercalate ", " s.mapper.transformedProperties ++
    ", " ++ s.options.display

end Source

end SheetQuery
