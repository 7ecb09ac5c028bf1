import SheetQuery.Value.Basic

/-!
# Expressions over query items

Predicates, sort keys and selectors are trees of one type. Filters and projections are both made
from the whole type and say for every shape whether they accept it. A source number names one of the
inputs of a query; number 0 is the main one, any other comes from a join.
-/

namespace SheetQuery

/-- The main source of a query. -/
def mainSource : Nat := 0

/-- A column of a generic row: by name, or by position counted from zero. -/
inductive ColumnRef where
  | named (name : String)
  | positioned (index : Nat)
  deriving DecidableEq, Repr

/-- A column in brackets, a name also in quotes. -/
def ColumnRef.display : ColumnRef → String
  | .named name => "[\"" ++ name ++ "\"]"
  | .positioned index => "[" ++ toString index ++ "]"

/-! ## Operators -/

/-- The six comparisons. -/
inductive Comparison where
  | eq
  | ne
  | lt
  | le
  | gt
  | ge
  deriving DecidableEq, Repr

namespace Comparison

/-- The comparison that holds when the operands trade places. -/
def flipped : Comparison → Comparison
  | .eq => .eq
  | .ne => .ne
  | .lt => .gt
  | .le => .ge
  | .gt => .lt
  | .ge => .le

/-- Whether the comparison holds between values in that order. -/
def holds : Comparison → Ordering → Bool
  | .eq, o => o == .eq
  | .ne, o => o != .eq
  | .lt, o => o == .lt
  | .le, o => o != .gt
  | .gt, o => o == .gt
  | .ge, o => o != .lt

/-- The comparison in statement text. -/
def symbol : Comparison → String
  | .eq => "="
  | .ne => "<>"
  | .lt => "<"
  | .le => "<="
  | .gt => ">"
  | .ge => ">="

/-- The word for the comparison in messages. -/
def name : Comparison → String
  | .eq => "Equal"
  | .ne => "NotEqual"
  | .lt => "LessThan"
  | .le => "LessThanOrEqual"
  | .gt => "GreaterThan"
  | .ge => "GreaterThanOrEqual"

@[simp] theorem flipped_flipped (c : Comparison) : c.flipped.flipped = c := by
  cases c <;> rfl

/-- Flipping turns the ordering around. -/
theorem holds_flipped (c : Comparison) (o : Ordering) : c.flipped.holds o.swap = c.holds o := by
  cases c <;> cases o <;> rfl

end Comparison

/-- The four operations on numbers. -/
inductive Arithmetic where
  | add
  | sub
  | mul
  | div
  deriving DecidableEq, Repr

/-- The word for the operation in messages. -/
def Arithmetic.name : Arithmetic → String
  | .add => "Add"
  | .sub => "Subtract"
  | .mul => "Multiply"
  | .div => "Divide"

/-- The operators between two expressions. -/
inductive BinaryOp where
  | compare (c : Comparison)
  | and
  | or
  | arithmetic (a : Arithmetic)
  deriving DecidableEq, Repr

namespace BinaryOp

/-- The word for the operator in messages. -/
def name : BinaryOp → String
  | .compare c => c.name
  | .and => "AndAlso"
  | .or => "OrElse"
  | .arithmetic a => a.name

/-- The operator compares its operands. -/
def isComparison : BinaryOp → Bool
  | .compare _ => true
  | _ => false

/-- The operator to use when the operands trade places; only comparisons change. -/
def flipped : BinaryOp → BinaryOp
  | .compare c => .compare c.flipped
  | op => op

end BinaryOp

/-- Tests on the text of a value. -/
inductive TextTest where
  | contains
  | startsWith
  | endsWith
  | equals
  | isNullOrEmpty
  deriving DecidableEq, Repr

/-- The word for the test in messages. -/
def TextTest.name : TextTest → String
  | .contains => "Contains"
  | .startsWith => "StartsWith"
  | .endsWith => "EndsWith"
  | .equals => "Equals"
  | .isNullOrEmpty => "IsNullOrEmpty"

/-- Functions on the text of a value, for selectors only. -/
inductive TextFunction where
  | upper
  | lower
  | trim
  | length
  deriving DecidableEq, Repr

/-- The word for the function in messages. -/
def TextFunction.name : TextFunction → String
  | .upper => "ToUpper"
  | .lower => "ToLower"
  | .trim => "Trim"
  | .length => "Length"

/-! ## Trees -/

/-- An expression. A nested query is never looked into, since nothing is made of it. -/
inductive Expr where
  | source (source : Nat)
  | member (source : Nat) (name : String)
  | column (source : Nat) (column : ColumnRef)
  | literal (value : Value)
  | binary (op : BinaryOp) (left right : Expr)
  | not (operand : Expr)
  | test (test : TextTest) (target : Expr) (argument : Option Expr)
  | apply (function : TextFunction) (operand : Expr)
  | convert (kind : Kind) (operand : Expr)
  | record (fields : List (String × Expr))
  | subquery

namespace Expr

/-- The expression below its outer conversions, which never change the column that is meant. -/
def unwrapped : Expr → Expr
  | .convert _ operand => operand.unwrapped
  | e => e

/-- A member or a column, possibly below conversions. -/
def isColumnAccess (e : Expr) : Bool :=
  match e.unwrapped with
  | .member .. | .column .. => true
  | _ => false

/-- The literal that stands for no value. -/
def isNullLiteral : Expr → Bool
  | .literal .null => true
  | _ => false

/-- The word for the outermost shape, in messages. -/
def kindName : Expr → String
  | .source _ => "QuerySourceReference"
  | .member .. => "MemberAccess"
  | .column .. => "ColumnAccess"
  | .literal _ => "Constant"
  | .binary op .. => op.name
  | .not _ => "Not"
  | .test t .. => t.name
  | .apply f _ => f.name
  | .convert .. => "Convert"
  | .record _ => "New"
  | .subquery => "SubQuery"

/-- The conjunction of two expressions. -/
def and (left right : Expr) : Expr :=
  .binary .and left right

@[simp] theorem unwrapped_convert (kind : Kind) (e : Expr) :
    (Expr.convert kind e).unwrapped = e.unwrapped := by
  rw [unwrapped]

/-- Unwrapping once is enough. -/
@[simp] theorem unwrapped_unwrapped (e : Expr) : e.unwrapped.unwrapped = e.unwrapped := by
  fun_induction unwrapped e with
  | case1 _ _ ih => exact ih
  | case2 e h => rw [unwrapped]; exact h

end Expr

end SheetQuery
