import SheetQuery.Session.Line

/-!
# Fetched tables

Running the clauses of a query over an open connection: the table is resolved, the statement is
rendered and executed, and the reply is read to its end. A failure is looked into. A message with
the name of the table in it means the table; otherwise the columns of the table are asked for, and
the first column of the query that is not among them is to blame.
-/

namespace SheetQuery

/-- What a query brought back, before any item is made of it. -/
structure Fetched where
  table : Table
  result : ResultSet

/-- The first of the used names that is not known. -/
def firstUnknown? (used known : List String) : Option String :=
  used.find? (!known.contains ·)

namespace Source

variable {σ : Type} [Backend σ]

/-- The table of the source. The worksheets are listed only where a position has to be looked up. -/
def locate (s : Source) : Action σ Table := do
  let names ← if s.askedIndex?.isSome then Action.worksheets s.spec else pure []
  Action.ofExcept (s.resolve names)

/-- The failure that means the table. Without a listing the failure lists nothing. -/
def tableFailure (s : Source) (table : Table) (message : String) : Action σ QueryError := do
  let raw ← Action.ask (Backend.tableNames s.spec)
  let valid := match raw with
    | .ok names => Catalog.worksheets names
    | .error _ => []
  return .invalidTableReference table.displayName s.file valid message

/-- The failure that means a column, where the columns of the table can be had and lack one. -/
def columnFailure (s : Source) (table : Table) (used : List String) (message : String) :
    Action σ QueryError := do
  match ← Action.columnNames s.spec table with
  | .error _ => return .driver message
  | .ok known =>
    match firstUnknown? used known with
    | some column => return .invalidColumnReference column known
    | none => return .driver message

/-- The failure behind a message of the backend. -/
def failure (s : Source) (table : Table) (used : List String) (message : String) :
    Action σ QueryError :=
  let name := table.displayName
  if name ≠ "" ∧ Text.holds message.toList name.toList then s.tableFailure table message
  else s.columnFailure table used message

/-- Refuses whole rows without a column that the query names. -/
def checkUsed (clauses : Clauses) (columns : List String) : Except QueryError Unit :=
  if clauses.selection.isWholeRow then
    match firstUnknown? clauses.columnsUsed columns with
    | some column => .error (.invalidColumnReference column columns)
    | none => .ok ()
  else .ok ()

/-- Runs clauses over an open connection. -/
def fetch (s : Source) (clauses : Clauses) : Action σ Fetched := do
  let table ← s.locate
  let reply ← Action.ask (Backend.execute s.spec (clauses.render table))
  match reply.bind Reply.readAll with
  | .error message => throw (← s.failure table clauses.columnsUsed message)
  | .ok result =>
    Action.ofExcept (checkUsed clauses result.columns)
    return ⟨table, result⟩

end Source

end SheetQuery
