import SheetQuery.Expr

/-!
# The shape of a query

A query as it is composed, before anything is compiled: what an item of it is, clauses in the order
they were given, a selector and result operators in the order they were given. Some operators
have no statement; they are part of the model so that the refusal is part of compiling.
-/

namespace SheetQuery

/-- What the main source yields for each row: a row addressed by column name, a row addressed by
position, or a typed record. -/
inductive ItemShape where
  | row
  | headerless
  | record (name : String)
  deriving DecidableEq, Repr

/-- The direction of a sort key. -/
inductive Direction where
  | ascending
  | descending
  deriving DecidableEq, Repr

/-- The direction in statement text. -/
def Direction.symbol : Direction → String
  | .ascending => "ASC"
  | .descending => "DESC"

/-- A sort key. -/
structure SortKey where
  key : Expr
  direction : Direction

/-- A second source joined into the query. -/
structure Join where
  source : Nat
  table : String
  outerKey : Expr
  innerKey : Expr

/-- A clause of the body of a query. -/
inductive Clause where
  | filter (predicate : Expr)
  | orderBy (keys : List SortKey)
  | join (join : Join)
  | groupJoin (join : Join)

/-- An operator on the result of a query. The other query of a set operation is never looked into,
since no statement has a place for it. -/
inductive Operator where
  | take (n : Nat)
  | skip (n : Nat)
  | first
  | last
  | count
  | longCount
  | sum
  | min
  | max
  | average
  | distinct
  | reverse
  | contains (value : Value)
  | defaultIfEmpty
  | groupBy (key : Expr)
  | union
  | intersect
  | except
  | ofType (name : String)
  | single

/-- The operators whose result is one value that the source computes. -/
def Operator.isScalarAggregate : Operator → Bool
  | .count | .longCount | .sum | .min | .max | .average => true
  | _ => false

/-- The operator asks for distinct values. -/
def Operator.isDistinct : Operator → Bool
  | .distinct => true
  | _ => false

/-- What an operator does to the items that came back. Only skipping and reversing are left to them.
-/
def Operator.onItems {α : Type} : Operator → List α → List α
  | .skip n, items => items.drop n
  | .reverse, items => items.reverse
  | _, items => items

/-- A composed query. No selector means the item itself. -/
structure Model where
  shape : ItemShape
  selector : Option Expr
  body : List Clause
  operators : List Operator

namespace Model

/-- A query for all items of a shape. -/
def all (shape : ItemShape) : Model :=
  ⟨shape, none, [], []⟩

/-- The selector, or the item itself when there is none. -/
def selectorOrIdentity (m : Model) : Expr :=
  m.selector.getD (.source mainSource)

/-- A selector is present that is not the item itself. -/
def hasProjection (m : Model) : Bool :=
  match m.selector with
  | none => false
  | some (.source source) => source != mainSource
  | some _ => true

/-- Some operator asks for distinct values. -/
def hasDistinct (m : Model) : Bool :=
  m.operators.any Operator.isDistinct

/-- The same query with a clause more. -/
def withClause (m : Model) (clause : Clause) : Model :=
  { m with body := m.body ++ [clause] }

/-- The same query with an operator more. -/
def withOperator (m : Model) (operator : Operator) : Model :=
  { m with operators := m.operators ++ [operator] }

/-- The same query with an item's projection in place of the item. -/
def select (m : Model) (selector : Expr) : Model :=
  { m with selector := some selector }

/-- The same query with a further sort key: in the ordering that was given last, or in one of its
own when the last clause is something else. -/
def thenBy (m : Model) (key : SortKey) : Model :=
  match m.body.getLast? with
  | some (.orderBy keys) => { m with body := m.body.dropLast ++ [.orderBy (keys ++ [key])] }
  | _ => m.withClause (.orderBy [key])

/-- The items that came back under the operators left to them, in the order they were given. -/
def onItems {α : Type} (m : Model) (items : List α) : List α :=
  m.operators.foldl (fun items operator => operator.onItems items) items

/-- The predicates of the query, in the order they were given. -/
def predicates (m : Model) : List Expr :=
  m.body.filterMap fun
    | .filter predicate => some predicate
    | _ => none

/-- The first key of the first ordering that has one. -/
def leadingKey? (m : Model) : Option SortKey :=
  m.body.findSome? fun
    | .orderBy keys => keys.head?
    | _ => none

end Model

end SheetQuery
