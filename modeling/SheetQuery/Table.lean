import SheetQuery.Error
import SheetQuery.Text.Casing
import SheetQuery.Text.Quoted

/-!
# Tables of a source

A query names the part of the source it reads by an identity: a worksheet, a cell range or a named
range, with the worksheet given by name, by position or not at all. Resolving an identity gives a
table, which has a clause for statements and a name for messages.
-/

namespace SheetQuery

/-- A worksheet by name, or by position counted from zero. -/
inductive Worksheet where
  | named (name : String)
  | positioned (index : Nat)
  deriving DecidableEq, Repr

/-- Which part of the source a query reads. -/
inductive TableIdentity where
  | worksheet (worksheet : Option Worksheet)
  | range (worksheet : Option Worksheet) (start stop : String)
  | namedRange (worksheet : Option Worksheet) (name : String)
  deriving DecidableEq, Repr

/-- A table whose worksheet is known by name. -/
structure Table where
  worksheet : Option String
  namedRange : Option String
  range : Option (String × String)
  deriving DecidableEq, Repr

namespace Worksheet

/-- The choice of a worksheet, with names in quotes. -/
def listing : Option Worksheet → String
  | none => "None"
  | some (.named name) => "Some(Name(" ++ Text.quoted name ++ "))"
  | some (.positioned index) => "Some(Index(" ++ toString index ++ "))"

end Worksheet

namespace TableIdentity

/-- The worksheet that the identity names. -/
def worksheet? : TableIdentity → Option Worksheet
  | .worksheet ws | .range ws _ _ | .namedRange ws _ => ws

/-- The cell range that the identity names. -/
def range? : TableIdentity → Option (String × String)
  | .range _ start stop => some (start, stop)
  | _ => none

/-- The named range that the identity names. -/
def namedRange? : TableIdentity → Option String
  | .namedRange _ name => some name
  | _ => none

/-- The identity with its parts by name. -/
def listing : TableIdentity → String
  | .worksheet ws => "Worksheet(" ++ Worksheet.listing ws ++ ")"
  | .range ws start stop =>
    "Range \x7b worksheet: " ++ Worksheet.listing ws ++ ", start: " ++ Text.quoted start ++
      ", end: " ++ Text.quoted stop ++ " \x7d"
  | .namedRange ws name =>
    "NamedRange \x7b worksheet: " ++ Worksheet.listing ws ++ ", name: " ++ Text.quoted name ++
      " \x7d"

end TableIdentity

/-! ## Comma-separated files -/

/-- The ending of comma-separated files. -/
def csvExtension : List Char :=
  ".csv".toList

/-- The name ends like that of a comma-separated file, in letters of any case. -/
def isCsvName (name : List Char) : Bool :=
  csvExtension.isSuffixOf (Text.lower name)

/-- Drops each dollar sign that stands right before a closing bracket. -/
def dropClosingDollar : List Char → List Char
  | '$' :: ']' :: rest => ']' :: dropClosingDollar rest
  | c :: rest => c :: dropClosingDollar rest
  | [] => []

namespace Table

/-- The name that messages use: the worksheet, else the named range. -/
def displayName (t : Table) : String :=
  (t.worksheet <|> t.namedRange).getD ""

/-- The reference between the brackets of the clause. -/
def reference (t : Table) : List Char :=
  let worksheet := (t.worksheet.getD "").toList
  match t.range, t.namedRange, t.worksheet with
  | some (start, stop), _, _ => worksheet ++ '$' :: start.toList ++ ':' :: stop.toList
  | none, some name, none => name.toList
  | none, name, _ => worksheet ++ '$' :: (name.getD "").toList

/-- The clause that names the table in a statement. A comma-separated file is named without the
dollar sign that marks a worksheet. -/
def clause (t : Table) : List Char :=
  let bracketed := '[' :: t.reference ++ [']']
  if isCsvName (t.worksheet.getD "").toList then dropClosingDollar bracketed else bracketed

end Table

end SheetQuery
