import SheetQuery.Model

/-!
# The statement dialect

The statements that pass between a query and a source: one selection from one table, with at most
one condition and one sort column. This module has the trees; the text of a selection stands with
them because both writers of statements need it.
-/

namespace SheetQuery.Sql

/-- The aggregates over one column. -/
inductive Aggregate where
  | sum
  | min
  | max
  | average
  deriving DecidableEq, Repr

/-- The word for an aggregate. -/
def Aggregate.symbol : Aggregate → String
  | .sum => "SUM"
  | .min => "MIN"
  | .max => "MAX"
  | .average => "AVG"

/-- What a statement selects. -/
inductive Selection where
  | all
  | top (n : Nat)
  | count
  | distinct (column : String)
  | aggregate (function : Aggregate) (column : String)
  deriving DecidableEq, Repr

/-- A name in brackets. -/
def bracketed (name : String) : List Char :=
  '[' :: name.toList ++ [']']

/-- The selection in statement text. -/
def Selection.chars : Selection → List Char
  | .all => "*".toList
  | .top n => "TOP ".toList ++ Decimal.digits n ++ " *".toList
  | .count => "COUNT(*)".toList
  | .distinct column => "DISTINCT(".toList ++ bracketed column ++ ")".toList
  | .aggregate function column =>
    function.symbol.toList ++ "(".toList ++ bracketed column ++ ")".toList

/-- All columns of the table come back. -/
def Selection.isWholeRow : Selection → Bool
  | .all | .top _ => true
  | _ => false

/-- One value comes back that the source computes. -/
def Selection.isScalar : Selection → Bool
  | .count | .aggregate .. => true
  | _ => false

/-- One side of a comparison. -/
inductive Operand where
  | column (name : String)
  | literal (value : Value)

/-- A condition on a row. -/
inductive Condition where
  | and (left right : Condition)
  | or (left right : Condition)
  | not (inner : Condition)
  | compare (left : Operand) (op : Comparison) (right : Operand)
  | isNull (operand : Operand) (negated : Bool)
  | like (target pattern : Operand)

/-- A statement. -/
structure Statement where
  selection : Selection
  table : String
  condition : Option Condition
  orderBy : Option (String × Direction)

end SheetQuery.Sql
