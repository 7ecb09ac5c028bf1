import SheetQuery.Expr

/-!
# What can go wrong

Every failure of the library is a cause: a constructor with the facts that led to it. The wording is
in one place, `QueryError.message`. A driver alone speaks in free text, since its message comes from
outside and is itself inspected.
-/

namespace SheetQuery

/-- Why a query operator or a join is refused. -/
inductive OperatorFault where
  | unsupported (method : String)
  | groupJoin
  | distinctSelection
  | needsColumn (method : String)
  | single
  deriving DecidableEq, Repr

/-- The wording of an operator fault. -/
def OperatorFault.message : OperatorFault → String
  | .unsupported method => "the " ++ method ++ "() method is not supported"
  | .groupJoin => "group join is not supported"
  | .distinctSelection =>
    "the Distinct() method is only supported when a single property is selected, " ++
      "e.g. select(member(\"FirstName\")).distinct()"
  | .needsColumn method =>
    "the " ++ method ++ "() method requires a selector that is a single column"
  | .single => "the Single() method is not supported. Use the First() method instead"

/-- Why an expression is no filter or has no value. Shapes of nodes appear by their words. -/
inductive ExpressionFault where
  | notColumn (node : String)
  | foreignSource (source : Nat)
  | indexUnderHeader
  | nameWithoutHeader (column : String)
  | notInFilter (node : String)
  | noColumnOperand (op : Comparison) (left right : String)
  | againstNull (op : Comparison)
  | operand (node : String) (op : Comparison)
  | calledOn (test : TextTest) (node : String)
  | nonConstantArgument (node : String) (test : TextTest)
  | missingArgument (test : TextTest)
  | unboundSource (source : Nat)
  | severalSources
  | subqueryInSelector
  | arithmetic (op : Arithmetic)
  | indexOutOfRange (index : Nat)
  | memberWithoutHeader (name : String)
  | columnWithoutHeader (column : String)
  | noSuchField (field record : String)
  | columnOfRecord (column : ColumnRef) (record : String)
  deriving DecidableEq, Repr

/-- The wording of an expression fault. -/
def ExpressionFault.message : ExpressionFault → String
  | .notColumn node => node ++ " is not a column reference"
  | .foreignSource source =>
    "reference to query source " ++ toString source ++ " other than the main source"
  | .indexUnderHeader => "column indexes can only be used on headerless rows"
  | .nameWithoutHeader column => "column name '" ++ column ++ "' used on a headerless row"
  | .notInFilter node => node ++ " is not supported in a filter"
  | .noColumnOperand op left right =>
    op.name ++ " between " ++ left ++ " and " ++ right ++ " has no column operand"
  | .againstNull op => op.name ++ " against null"
  | .operand node op => node ++ " operand of " ++ op.name
  | .calledOn test node => test.name ++ " called on " ++ node
  | .nonConstantArgument node test =>
    node ++ " argument to " ++ test.name ++ "; only constants are supported"
  | .missingArgument test => test.name ++ " without an argument"
  | .unboundSource source => "query source " ++ toString source ++ " is not bound"
  | .severalSources => "selector reads more than one query source"
  | .subqueryInSelector => "SubQuery is not supported in a selector"
  | .arithmetic op => op.name ++ " overflows or divides by zero"
  | .indexOutOfRange index => "column index " ++ toString index ++ " is out of range"
  | .memberWithoutHeader name =>
    "member '" ++ name ++ "' on a row without a header, address columns by position"
  | .columnWithoutHeader column =>
    "column '" ++ column ++ "' on a row without a header, address columns by position"
  | .noSuchField field record => "'" ++ field ++ "' is not a field of " ++ record
  | .columnOfRecord column record =>
    "column " ++ column.display ++ " on " ++ record ++ ", use a member instead"

/-- Why a session or a query is configured wrongly. -/
inductive ConfigurationFault where
  | fileNameMissing
  | csvRangeWithoutHeader
  | worksheetNameEmpty
  | worksheetIndexOutOfRange
  | columnTaken (column property : String)
  | transformTaken (property : String)
  | duplicateColumn (column : String)
  deriving DecidableEq, Repr

/-- The wording of a configuration fault. -/
def ConfigurationFault.message : ConfigurationFault → String
  | .fileNameMissing => "file name is not set"
  | .csvRangeWithoutHeader => "Cannot use WorksheetRangeNoHeader on csv files"
  | .worksheetNameEmpty => "worksheet name is empty"
  | .worksheetIndexOutOfRange => "Worksheet Index Out of Range"
  | .columnTaken column property =>
    "column '" ++ column ++ "' is already mapped to the '" ++ property ++ "' property"
  | .transformTaken property =>
    "a transformation for the '" ++ property ++ "' property is already registered"
  | .duplicateColumn column => "column name '" ++ column ++ "' appears more than once"

/-- The side that strict mapping finds without a counterpart. -/
inductive StrictFault where
  | property (name : String)
  | column (name : String)
  deriving DecidableEq, Repr

/-- The wording of a strict mapping fault. -/
def StrictFault.message : StrictFault → String
  | .property name => "'" ++ name ++ "' property is not mapped to a column"
  | .column name => "'" ++ name ++ "' column is not mapped to a property"

/-- Why the declaration of a record type is invalid. -/
inductive SchemaFault where
  | noFields
  | emptyName
  | declaredTwice (field : String)
  | emptyColumn (field : String)
  | sharedColumn (first second column : String)
  deriving DecidableEq, Repr

/-- The wording of a schema fault. -/
def SchemaFault.message : SchemaFault → String
  | .noFields => "no fields declared"
  | .emptyName => "field with an empty name"
  | .declaredTwice field => "field '" ++ field ++ "' is declared twice"
  | .emptyColumn field => "field '" ++ field ++ "' has an empty column"
  | .sharedColumn first second column =>
    "fields '" ++ first ++ "' and '" ++ second ++ "' both read column '" ++ column ++ "'"

/-- What a value could not be turned into. -/
inductive Target where
  | integer
  | float
  | boolean
  | dateTime
  | int32
  | size
  deriving DecidableEq, Repr

/-- The word for a conversion target. -/
def Target.name : Target → String
  | .integer => "integer"
  | .float => "float"
  | .boolean => "boolean"
  | .dateTime => "datetime"
  | .int32 => "32-bit integer"
  | .size => "usize"

/-- An end of a cell range, by the name that messages use. -/
inductive RangeEnd where
  | start
  | stop
  deriving DecidableEq, Repr

/-- The word for an end of a range. -/
def RangeEnd.name : RangeEnd → String
  | .start => "StartRange"
  | .stop => "EndRange"

/-- A failure of the library. -/
inductive QueryError where
  | unsupportedOperator (fault : OperatorFault)
  | unsupportedExpression (fault : ExpressionFault)
  | malformedRangeReference (endpoint : RangeEnd) (value : String)
  | invalidTableReference (table file : String) (valid : List String) (message : String)
  | invalidColumnReference (column : String) (valid : List String)
  | strictMappingViolation (fault : StrictFault)
  | configuration (fault : ConfigurationFault)
  | conversion (value : String) (target : Target) (field : Option String)
  | schema (record : String) (fault : SchemaFault)
  | emptySequence
  | driver (message : String)
  deriving DecidableEq, Repr

namespace QueryError

/-- Names between quotes, with commas between them; the outermost quotes stand also around an empty
list. -/
def quotedList (names : List String) : String :=
  "'" ++ String.intercalate "', '" names ++ "'"

/-- The wording of a failure. -/
def message : QueryError → String
  | .unsupportedOperator fault => "Unsupported operator: " ++ fault.message
  | .unsupportedExpression fault => "Unsupported expression: " ++ fault.message
  | .malformedRangeReference endpoint value =>
    endpoint.name ++ " argument '" ++ value ++ "' is invalid format for cell name"
  | .invalidTableReference table file valid received =>
    "'" ++ table ++ "' is not a valid worksheet name in file " ++ file ++
      ". Valid worksheet names are: " ++ quotedList valid ++ ". Error received: " ++ received
  | .invalidColumnReference column valid =>
    "'" ++ column ++ "' is not a valid column name. Valid column names are: " ++ quotedList valid
  | .strictMappingViolation fault => "Strict mapping violation: " ++ fault.message
  | .configuration fault => "Configuration error: " ++ fault.message
  | .conversion value target field =>
    "Cannot convert " ++ value ++ " to " ++ target.name ++
      (field.elim "" fun f => " for field '" ++ f ++ "'")
  | .schema record fault => "Invalid record schema for " ++ record ++ ": " ++ fault.message
  | .emptySequence => "Sequence contains no elements"
  | .driver received => received

/-- A conversion failure that names the field being filled; other failures stay as they are. -/
def forField (field : String) : QueryError → QueryError
  | .conversion value target _ => .conversion value target (some field)
  | e => e

end QueryError

end SheetQuery
