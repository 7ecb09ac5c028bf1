import SheetQuery.Filter.OfExpr
import SheetQuery.Table

/-!
# Statements of queries

Compiling a query gives its clauses: everything of a statement but the table. Aimed at a table they
are a statement with its parameters. Compiling asks nothing of the source, so a query that has no
statement fails before anything is opened.
-/

namespace SheetQuery

/-- The parts of a statement that do not depend on the table. `columnsUsed` has every column that
the condition, the ordering or some aggregate names, in order of first use. -/
structure Clauses where
  selection : Sql.Selection
  filter : Option Filter
  orderBy : Option (String × Direction)
  columnsUsed : List String

/-- The text of a statement and the values of its placeholders. -/
structure Rendered where
  sql : String
  params : List Value

namespace Clauses

/-- Selects everything. -/
def all : Clauses :=
  ⟨.all, none, none, []⟩

/-- The values of the placeholders. -/
def params (c : Clauses) : List Value :=
  (c.filter.map Filter.params).getD []

/-- The condition with its keyword. -/
def whereChars (c : Clauses) : List Char :=
  match c.filter with
  | some filter => " WHERE ".toList ++ filter.chars
  | none => []

/-- The ordering with its keyword. -/
def orderChars (c : Clauses) : List Char :=
  match c.orderBy with
  | some (column, direction) =>
    " ORDER BY ".toList ++ Sql.bracketed column ++ ' ' :: direction.symbol.toList
  | none => []

/-- The statement aimed at the table with that clause. -/
def chars (c : Clauses) (table : List Char) : List Char :=
  "SELECT ".toList ++ c.selection.chars ++ " FROM ".toList ++ table ++ c.whereChars ++ c.orderChars

/-- The statement aimed at a table. -/
def render (c : Clauses) (table : Table) : Rendered :=
  ⟨String.ofList (c.chars table.clause), c.params⟩

end Clauses

namespace Rendered

/-- A parameter with its number; a value that is not shown as digits stands in quotes. -/
def paramText (entry : Value × Nat) : String :=
  let shown := entry.1.display
  " p" ++ toString entry.2 ++ " = " ++
    (if entry.1.isNumericText then shown else "'" ++ shown ++ "'") ++ ";"

/-- The statement and its parameters in one line. -/
def display (r : Rendered) : String :=
  r.sql ++ ";" ++ String.join (r.params.zipIdx.map paramText)

end Rendered

/-! ## Compiling -/

/-- Refuses an operator. -/
def unsupportedOperator {α : Type} (fault : OperatorFault) : Except QueryError α :=
  .error (.unsupportedOperator fault)

/-- Refuses the first join of the body. -/
def rejectJoins : List Clause → Except QueryError Unit
  | [] => .ok ()
  | .join _ :: _ => unsupportedOperator (.unsupported "Join")
  | .groupJoin _ :: _ => unsupportedOperator .groupJoin
  | .filter _ :: rest | .orderBy _ :: rest => rejectJoins rest

/-- All predicates in one conjunction, the earliest innermost on the left. -/
def conjunction? : List Expr → Option Expr
  | [] => none
  | first :: rest => some (rest.foldl Expr.and first)

namespace Clauses

/-- Fills in the condition. -/
def withPredicates (c : Clauses) (mapper : Mapper) (m : Model) : Except QueryError Clauses :=
  match conjunction? m.predicates with
  | none => .ok c
  | some predicate => do
    let filter ← Filter.ofExpr mapper m.shape predicate
    return { c with filter := some filter,
                    columnsUsed := filter.columns.foldl useColumn c.columnsUsed }

/-- Fills in the ordering, for which the leading key alone counts. -/
def withOrdering (c : Clauses) (mapper : Mapper) (m : Model) : Except QueryError Clauses :=
  match m.leadingKey? with
  | none => .ok c
  | some key => do
    let column ← resolveColumn mapper m.shape key.key
    return { c with orderBy := some (column, key.direction),
                    columnsUsed := useColumn c.columnsUsed column }

/-- Selects something over the selected column. -/
def overColumn (c : Clauses) (mapper : Mapper) (m : Model) (method : String)
    (select : String → Sql.Selection) : Except QueryError Clauses :=
  match m.selector with
  | some selector =>
    if selector.isColumnAccess then do
      let column ← resolveColumn mapper m.shape selector
      return { c with selection := select column, columnsUsed := useColumn c.columnsUsed column }
    else unsupportedOperator (.needsColumn method)
  | none => unsupportedOperator (.needsColumn method)

/-- Whether the selector is a single column. -/
def selectsColumn (m : Model) : Bool :=
  (m.selector.map Expr.isColumnAccess).getD false

/-- The effect of one result operator. Skipping, reversing and taking the last item are left to the
items that come back. -/
def withOperator (mapper : Mapper) (m : Model) (c : Clauses) :
    Operator → Except QueryError Clauses
  | .take n => .ok { c with selection := .top n }
  | .first => .ok { c with selection := .top 1 }
  | .count | .longCount => .ok { c with selection := .count }
  | .sum => c.overColumn mapper m "Sum" (.aggregate .sum)
  | .min => c.overColumn mapper m "Min" (.aggregate .min)
  | .max => c.overColumn mapper m "Max" (.aggregate .max)
  | .average => c.overColumn mapper m "Average" (.aggregate .average)
  | .distinct =>
    if selectsColumn m then c.overColumn mapper m "Distinct" .distinct
    else unsupportedOperator .distinctSelection
  | .skip _ | .last | .reverse => .ok c
  | .contains _ => unsupportedOperator (.unsupported "Contains")
  | .defaultIfEmpty => unsupportedOperator (.unsupported "DefaultIfEmpty")
  | .groupBy _ => unsupportedOperator (.unsupported "Group")
  | .union => unsupportedOperator (.unsupported "Union")
  | .intersect => unsupportedOperator (.unsupported "Intersect")
  | .except => unsupportedOperator (.unsupported "Except")
  | .ofType _ => unsupportedOperator (.unsupported "OfType")
  | .single => unsupportedOperator .single

end Clauses

/-- The clauses of a query, or the first reason why it has none: joins, then predicates, then the
ordering, then the operators in their order. -/
def compile (mapper : Mapper) (m : Model) : Except QueryError Clauses := do
  rejectJoins m.body
  let c ← Clauses.all.withPredicates mapper m
  let c ← c.withOrdering mapper m
  m.operators.foldlM (Clauses.withOperator mapper m) c

end SheetQuery
