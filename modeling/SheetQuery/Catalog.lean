import SheetQuery.Text.Search

/-!
# Listings of tables

A source lists its tables by raw names. A name that ends in a dollar sign, with or without quotes
around it, is a worksheet; a name with a dollar sign further inside is a named range of a worksheet;
any other is a named range of the whole source. Names that the spreadsheet program makes for itself
are not shown.
-/

namespace SheetQuery.Catalog

/-- The raw name of a worksheet. -/
def isWorksheet (raw : List Char) : Bool :=
  ['$'].isSuffixOf raw || (['\''].isPrefixOf raw && ['$', '\''].isSuffixOf raw)

/-- The raw name of a named range. -/
def isNamedRange (raw : List Char) : Bool :=
  !raw.contains '$' || !(['$'].isSuffixOf raw || ['$', '\''].isSuffixOf raw)

/-- The raw name of a named range of a worksheet. -/
def isWorksheetScoped (raw : List Char) : Bool :=
  isNamedRange raw && raw.contains '$'

/-- Parts of names that the spreadsheet program makes for itself. -/
def builtinMarkers : List (List Char) :=
  ["FilterDatabase".toList, "Print_Area".toList]

/-- A name that the spreadsheet program made. -/
def isBuiltin (name : List Char) : Bool :=
  builtinMarkers.any (Text.holds name)

/-- One apostrophe in place of each two. -/
def undoubled : List Char → List Char
  | '\'' :: '\'' :: rest => '\'' :: undoubled rest
  | c :: rest => c :: undoubled rest
  | [] => []

/-- The name without an apostrophe at its start. -/
def withoutOpening : List Char → List Char
  | '\'' :: rest => rest
  | name => name

/-- The name without an apostrophe at its end. -/
def withoutClosing (name : List Char) : List Char :=
  if name.getLast? = some '\'' then name.dropLast else name

/-- The name inside its quotes. -/
def unquoted (name : List Char) : List Char :=
  undoubled (withoutClosing (withoutOpening name))

/-- What follows the last dollar sign, or the whole name without one. -/
def afterLastDollar (name : List Char) : List Char :=
  match Text.splitAtLast? '$' name with
  | some (_, after) => after
  | none => name

/-- The worksheets among the raw names. -/
def worksheets (raw : List String) : List String :=
  (((raw.map String.toList).filter isWorksheet).map fun name =>
    unquoted (name.filter (· != '$'))).filter (fun name => !isBuiltin name) |>.map String.ofList

/-- Whether a raw named range belongs to the worksheet, or to the whole source for none. -/
def inScope (worksheet : Option String) (raw : List Char) : Bool :=
  match worksheet with
  | some worksheet => worksheet.toList.isPrefixOf (unquoted raw) && isWorksheetScoped raw
  | none => !isWorksheetScoped raw

/-- The named ranges of a worksheet, or of the whole source for none, among the raw names. -/
def namedRanges (raw : List String) (worksheet : Option String) : List String :=
  (((raw.map String.toList).filter fun name => isNamedRange name && inScope worksheet name).map
    unquoted).filter (fun name => !isBuiltin name) |>.map fun name =>
      String.ofList (afterLastDollar name)

end SheetQuery.Catalog
