import SheetQuery.Filter.Basic
import SheetQuery.Mapper
import SheetQuery.ResultSet

/-!
# From predicates to filters

The filter that an expression stands for, or the reason why there is none. Comparisons turn around
so that a column comes first, comparisons with the missing value become tests for it, tests on text
become patterns, and conversions are passed through. The first fault from left to right is the one
reported.
-/

namespace SheetQuery

/-- Refuses an expression. -/
def unsupported {α : Type} (fault : ExpressionFault) : Except QueryError α :=
  .error (.unsupportedExpression fault)

/-- Refuses every source but the main one. -/
def checkMainSource (source : Nat) : Except QueryError Unit :=
  if source = mainSource then .ok () else unsupported (.foreignSource source)

/-- The column that an access means. Members go through the mapper, names of columns are taken as
they are, and positions have a name only where rows have no header. -/
def resolveColumn (mapper : Mapper) (shape : ItemShape) (e : Expr) : Except QueryError String :=
  match e.unwrapped with
  | .member source name => do
    checkMainSource source
    return mapper.map name
  | .column source column => do
    checkMainSource source
    match column, shape with
    | .positioned index, .headerless => return positionName index
    | .positioned _, _ => unsupported .indexUnderHeader
    | .named name, .headerless => unsupported (.nameWithoutHeader name)
    | .named name, _ => return name
  | e => unsupported (.notColumn e.kindName)

namespace Filter

/-- The right side of a comparison with a column. -/
def ofOperand (mapper : Mapper) (shape : ItemShape) (op : Comparison) (e : Expr) :
    Except QueryError FilterOperand :=
  match e with
  | .literal value => .ok (.parameter value)
  | e =>
    if e.isColumnAccess then (resolveColumn mapper shape e).map .column
    else unsupported (.operand e.kindName op)

/-- A comparison with the column on its left. -/
def ofColumnComparison (mapper : Mapper) (shape : ItemShape) (access : Expr) (op : Comparison)
    (other : Expr) : Except QueryError Filter := do
  let column ← resolveColumn mapper shape access
  let other := other.unwrapped
  if other.isNullLiteral then
    match op with
    | .eq => return .isNull column false
    | .ne => return .isNull column true
    | op => unsupported (.againstNull op)
  else
    return .compare column op (← ofOperand mapper shape op other)

/-- A comparison with a column on either side. -/
def ofComparison (mapper : Mapper) (shape : ItemShape) (op : Comparison) (left right : Expr) :
    Except QueryError Filter :=
  if left.isColumnAccess then ofColumnComparison mapper shape left op right
  else if right.isColumnAccess then ofColumnComparison mapper shape right op.flipped left
  else unsupported (.noColumnOperand op left.kindName right.kindName)

/-- The text that a test looks for: the argument, which must be a constant. -/
def argumentText (test : TextTest) (argument : Option Expr) : Except QueryError String :=
  match argument.map Expr.unwrapped with
  | some (.literal value) => .ok value.display
  | some e => unsupported (.nonConstantArgument e.kindName test)
  | none => unsupported (.missingArgument test)

/-- A test on the text of a column. -/
def ofTest (mapper : Mapper) (shape : ItemShape) (test : TextTest) (target : Expr)
    (argument : Option Expr) : Except QueryError Filter :=
  if target.isColumnAccess then do
    let column ← resolveColumn mapper shape target
    match test with
    | .isNullOrEmpty => return .isEmpty column
    | .contains => return .like column ("%" ++ (← argumentText test argument) ++ "%")
    | .startsWith => return .like column ((← argumentText test argument) ++ "%")
    | .endsWith => return .like column ("%" ++ (← argumentText test argument))
    | .equals =>
      return .compare column .eq (.parameter (.text (← argumentText test argument)))
  else unsupported (.calledOn test target.kindName)

/-- A column that stands alone must be true. -/
def ofBareColumn (mapper : Mapper) (shape : ItemShape) (access : Expr) :
    Except QueryError Filter :=
  (resolveColumn mapper shape access).map fun column =>
    .compare column .eq (.parameter (.bool true))

/-- The filter of a predicate. -/
def ofExpr (mapper : Mapper) (shape : ItemShape) : Expr → Except QueryError Filter
  | .convert _ e => ofExpr mapper shape e
  | .binary .and left right => do
    let left ← ofExpr mapper shape left
    let right ← ofExpr mapper shape right
    return .and left right
  | .binary .or left right => do
    let left ← ofExpr mapper shape left
    let right ← ofExpr mapper shape right
    return .or left right
  | .binary (.compare op) left right => ofComparison mapper shape op left right
  | .binary (.arithmetic op) _ _ => unsupported (.notInFilter op.name)
  | .not e =>
    match e.unwrapped with
    | .test .isNullOrEmpty target _ => (resolveColumn mapper shape target).map .isNotEmpty
    | _ => (ofExpr mapper shape e).map .not
  | .test test target argument => ofTest mapper shape test target argument
  | .member source name => ofBareColumn mapper shape (.member source name)
  | .column source column => ofBareColumn mapper shape (.column source column)
  | .literal (.bool b) => .ok (.constant b)
  | e => unsupported (.notInFilter e.kindName)

end Filter

end SheetQuery
