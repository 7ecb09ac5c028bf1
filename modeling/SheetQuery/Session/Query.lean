import SheetQuery.Materialize
import SheetQuery.Session.Fetched

/-!
# Queries

A query knows its source, what its items are and how it is composed. Nothing happens before it is
finished. A query that has no statement fails without a use of the line. The values of a query are
its items under the selector; asked for distinct values, the source picks them out itself.
-/

namespace SheetQuery

/-- A query that is ready to be finished. -/
structure Query where
  source : Source
  type : ItemType
  model : Model

namespace Query

/-- The query with an operator more. -/
def withOperator (q : Query) (operator : Operator) : Query :=
  { q with model := q.model.withOperator operator }

/-- The clauses of the query. -/
def clauses (q : Query) : Except QueryError Clauses :=
  compile q.source.mapper q.model

/-- The way to open the source for a look at its tables. -/
def catalogSpec (q : Query) : ConnectionSpec :=
  { q.source.spec with hasHeader := true }

/-- The first of the items that came back. -/
def orEmpty {α : Type} : Option α → Except QueryError α
  | some a => .ok a
  | none => .error .emptySequence

/-- A count that is not negative. -/
def checkCount (i : Int64) : Except QueryError Nat :=
  if 0 ≤ i.toInt then .ok i.toInt.toNat
  else .error (.conversion (Value.int i).display .size none)

/-- A computed value as a count. -/
def toCount (v : Value) : Except QueryError Int64 := do
  match ← BaseType.int64.read v with
  | .int i => return i
  | _ => return 0

variable {σ : Type} [Backend σ]

/-- The statement that would be run. A worksheet given by position is looked up over a connection of
this look's own. -/
def statement (q : Query) : Action σ Rendered := do
  let clauses ← Action.ofExcept q.clauses
  let names ← if q.source.askedIndex?.isSome then
      Action.withConnection q.source.options.persistent q.catalogSpec
        (Action.worksheets q.catalogSpec)
    else pure []
  let table ← Action.ofExcept (q.source.resolve names)
  return clauses.render table

/-- Runs the query. -/
def fetch (q : Query) : Action σ Fetched := do
  let clauses ← Action.ofExcept q.clauses
  Action.withConnection q.source.options.persistent q.source.spec (q.source.fetch clauses)

/-- What makes items of the rows of a table. -/
def materializer (q : Query) (table : Table) (computedColumn : String) : Materializer :=
  ⟨q.source.mapper, q.source.options, table, computedColumn⟩

/-- The name that the backend gives to computed columns. -/
def computedColumn : Action σ String :=
  fun line => (.ok (Backend.computedColumn line.backend), line)

/-- Runs the query and makes items of the rows, with the warnings that come up. -/
def materialized (q : Query) : Action σ Materialized := do
  let fetched ← q.fetch
  let m := q.materializer fetched.table (← computedColumn)
  Action.report (m.warnings q.type fetched.result.columns)
  Action.ofExcept (m.materialize q.type fetched.result.columns fetched.result.rows)

/-- The value that the source computes for the query. -/
def scalar (q : Query) : Action σ Value := do
  Action.ofExcept (← q.materialized).intoScalar

/-! ## Items -/

/-- All items. -/
def items (q : Query) : Action σ (List Item) := do
  let found ← Action.ofExcept (← q.materialized).intoItems
  return q.model.onItems found

/-- The first item, where there is one. -/
def firstItem? (q : Query) : Action σ (Option Item) := do
  return (← (q.withOperator .first).items).head?

/-- The first item. -/
def firstItem (q : Query) : Action σ Item := do
  Action.ofExcept (orEmpty (← q.firstItem?))

/-- The last item, where there is one. -/
def lastItem? (q : Query) : Action σ (Option Item) := do
  return (← (q.withOperator .last).items).getLast?

/-! ## Values -/

/-- The distinct values of the selected column, as far as the source tells them apart. -/
def distinctValues (q : Query) : Action σ (List Value) := do
  let fetched ← q.fetch
  let m := q.materializer fetched.table (← computedColumn)
  let values ← Action.ofExcept
    (m.distinctValues q.type q.model.selectorOrIdentity fetched.result.rows)
  return q.model.onItems values

/-- The items under the selector. -/
def projectedValues (q : Query) : Action σ (List Value) := do
  let projector ← Action.ofExcept (Projector.ofExpr q.model.selectorOrIdentity)
  let found ← q.items
  Action.ofExcept (found.mapM projector.applyTo)

/-- All values. -/
def values (q : Query) : Action σ (List Value) :=
  if q.model.hasDistinct then q.distinctValues else q.projectedValues

/-- All values, each read into a type. -/
def valuesOf (q : Query) (type : FieldType) : Action σ (List Value) := do
  Action.ofExcept ((← q.values).mapM type.read)

/-- The first value, where there is one. -/
def firstValue? (q : Query) : Action σ (Option Value) := do
  return (← (q.withOperator .first).values).head?

/-- The first value. -/
def firstValue (q : Query) : Action σ Value := do
  Action.ofExcept (orEmpty (← q.firstValue?))

/-- The last value, where there is one. -/
def lastValue? (q : Query) : Action σ (Option Value) := do
  return (← (q.withOperator .last).values).getLast?

/-! ## Computed values -/

/-- The number of items, as the source counts them. -/
def longCount (q : Query) : Action σ Int64 := do
  Action.ofExcept (toCount (← (q.withOperator .longCount).scalar))

/-- The number of items. -/
def count (q : Query) : Action σ Nat := do
  let n ← Action.ofExcept (toCount (← (q.withOperator .count).scalar))
  Action.ofExcept (checkCount n)

/-- The operator that asks for an aggregate. -/
def aggregateOperator : Sql.Aggregate → Operator
  | .sum => .sum
  | .min => .min
  | .max => .max
  | .average => .average

/-- An aggregate of the selected column. -/
def aggregate (q : Query) (function : Sql.Aggregate) : Action σ Value :=
  (q.withOperator (aggregateOperator function)).scalar

end Query

end SheetQuery
