import SheetQuery.Sql.Syntax

/-!
# Filters

A filter is a predicate that a statement can carry: every comparison has a column on its left, every
literal is a parameter, and nothing else is left. Its text, its parameters and its columns are read
off the tree, all three from left to right, so the placeholders of the text and the parameters line
up. The condition of a filter is the same predicate in the trees of the statement dialect.
-/

namespace SheetQuery

/-- The right side of a comparison. -/
inductive FilterOperand where
  | parameter (value : Value)
  | column (name : String)

/-- A predicate that a statement can carry. -/
inductive Filter where
  | and (left right : Filter)
  | or (left right : Filter)
  | not (inner : Filter)
  | compare (column : String) (op : Comparison) (operand : FilterOperand)
  | isNull (column : String) (negated : Bool)
  | like (column pattern : String)
  | isEmpty (column : String)
  | isNotEmpty (column : String)
  | constant (b : Bool)

namespace FilterOperand

/-- The operand in statement text; a parameter leaves a placeholder. -/
def chars : FilterOperand → List Char
  | .parameter _ => ['?']
  | .column name => Sql.bracketed name

/-- The parameters of the operand. -/
def params : FilterOperand → List Value
  | .parameter value => [value]
  | .column _ => []

/-- The columns of the operand. -/
def columns : FilterOperand → List String
  | .parameter _ => []
  | .column name => [name]

/-- The operand in the statement dialect. -/
def operand : FilterOperand → Sql.Operand
  | .parameter value => .literal value
  | .column name => .column name

end FilterOperand

namespace Filter

open Sql

/-- Text between parentheses. -/
def parenthesized (s : List Char) : List Char :=
  '(' :: s ++ [')']

/-- The filter in statement text. -/
def chars : Filter → List Char
  | .and left right => parenthesized (left.chars ++ " AND ".toList ++ right.chars)
  | .or left right => parenthesized (left.chars ++ " OR ".toList ++ right.chars)
  | .not inner => parenthesized ("NOT ".toList ++ inner.chars)
  | .compare column op operand =>
    parenthesized (bracketed column ++ ' ' :: op.symbol.toList ++ ' ' :: operand.chars)
  | .isNull column negated =>
    parenthesized (bracketed column ++ (if negated then " IS NOT NULL" else " IS NULL").toList)
  | .like column _ => parenthesized (bracketed column ++ " LIKE ?".toList)
  | .isEmpty column =>
    parenthesized (parenthesized (bracketed column ++ " = ''".toList) ++ " OR ".toList ++
      parenthesized (bracketed column ++ " IS NULL".toList))
  | .isNotEmpty column =>
    parenthesized (parenthesized (bracketed column ++ " <> ''".toList) ++ " OR ".toList ++
      parenthesized (bracketed column ++ " IS NOT NULL".toList))
  | .constant b => if b then "(1 = 1)".toList else "(1 = 0)".toList

/-- The values for the placeholders, in the order of the text. -/
def params : Filter → List Value
  | .and left right | .or left right => left.params ++ right.params
  | .not inner => inner.params
  | .compare _ _ operand => operand.params
  | .like _ pattern => [.text pattern]
  | .isNull .. | .isEmpty _ | .isNotEmpty _ | .constant _ => []

/-- The columns in the order of their uses, with repetitions. -/
def columns : Filter → List String
  | .and left right | .or left right => left.columns ++ right.columns
  | .not inner => inner.columns
  | .compare column _ operand => column :: operand.columns
  | .isNull column _ | .like column _ | .isEmpty column | .isNotEmpty column => [column]
  | .constant _ => []

/-- The filter in the statement dialect. -/
def condition : Filter → Condition
  | .and left right => .and left.condition right.condition
  | .or left right => .or left.condition right.condition
  | .not inner => .not inner.condition
  | .compare column op operand => .compare (.column column) op operand.operand
  | .isNull column negated => .isNull (.column column) negated
  | .like column pattern => .like (.column column) (.literal (.text pattern))
  | .isEmpty column =>
    .or (.compare (.column column) .eq (.literal (.text ""))) (.isNull (.column column) false)
  | .isNotEmpty column =>
    .or (.compare (.column column) .ne (.literal (.text ""))) (.isNull (.column column) true)
  | .constant b => .compare (.literal (.int 1)) .eq (.literal (.int (if b then 1 else 0)))

end Filter

/-- Adds a name to a list that has each name once. -/
def useColumn (used : List String) (column : String) : List String :=
  if used.contains column then used else used ++ [column]

/-- The names in order of first use, each once. -/
def firstUses (names : List String) : List String :=
  names.foldl useColumn []

end SheetQuery
