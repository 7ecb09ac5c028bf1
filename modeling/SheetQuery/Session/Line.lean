import SheetQuery.Backend.Basic
import SheetQuery.Catalog
import SheetQuery.Log

/-!
# Lines to a backend

The state that a session shares with its backend: the backend itself, the connection that the
session keeps, and what has been reported. An action changes the line and may fail; a failure does
not undo the changes. Every use of a connection goes through `withConnection`, which opens one for
this use or takes the kept one.
-/

namespace SheetQuery

/-- A backend with the connection that is kept and the reported events. -/
structure Line (σ : Type) where
  backend : σ
  kept : Option ConnectionSpec
  log : List LogEvent

/-- A use of the line that may fail. -/
abbrev Action (σ α : Type) := ExceptT QueryError (StateM (Line σ)) α

namespace Line

variable {σ : Type}

/-- The line to a backend that has not been used. -/
def ofBackend (backend : σ) : Line σ :=
  ⟨backend, none, []⟩

/-- The line with further events. -/
def report (line : Line σ) (events : List LogEvent) : Line σ :=
  { line with log := line.log ++ events }

/-- The line on which a connection is kept. -/
def keep (spec : ConnectionSpec) (line : Line σ) : Line σ :=
  { line with kept := some spec }

/-- The event of a connection that did not close well. -/
def closeEvent (message : String) : LogEvent :=
  .error "Failed to release connection" message

variable [Backend σ]

/-- The line after a connection was closed. A failure is reported and changes no result. -/
def close (spec : ConnectionSpec) (line : Line σ) : Line σ :=
  match Backend.close spec line.backend with
  | (.ok _, backend) => { line with backend := backend }
  | (.error message, backend) => { line with backend := backend }.report [closeEvent message]

/-- The line without a kept connection. -/
def closeKept (line : Line σ) : Line σ :=
  match line.kept with
  | some spec => { line with kept := none }.close spec
  | none => line

end Line

namespace Action

variable {σ α : Type}

/-- Succeeds or fails without a use of the line. -/
def ofExcept (result : Except QueryError α) : Action σ α :=
  fun line => (result, line)

/-- Puts an operation to the backend; its failure is part of the result. -/
def ask (operation : σ → Except String α × σ) : Action σ (Except String α) :=
  fun line =>
    let (result, backend) := operation line.backend
    (.ok result, { line with backend := backend })

/-- The result of the backend, or a failure with its message. -/
def orFail (result : Except String α) : Action σ α :=
  ofExcept (result.mapError .driver)

/-- Reports events. -/
def report (events : List LogEvent) : Action σ Unit :=
  fun line => (.ok (), line.report events)

/-- Changes the line after an action, whatever its result. -/
def andFinally (action : Action σ α) (change : Line σ → Line σ) : Action σ α :=
  fun line =>
    let (result, line) := action line
    (result, change line)

variable [Backend σ]

/-! ## What can be asked over an open connection -/

/-- Opens a connection. -/
def connect (spec : ConnectionSpec) : Action σ Unit := do
  orFail (← ask (Backend.connect spec))

/-- The raw names of the tables. -/
def tableNames (spec : ConnectionSpec) : Action σ (List String) := do
  orFail (← ask (Backend.tableNames spec))

/-- The names of the worksheets. -/
def worksheets (spec : ConnectionSpec) : Action σ (List String) := do
  return Catalog.worksheets (← tableNames spec)

/-- The names of the ranges of a worksheet, or of the whole source for none. -/
def namedRanges (spec : ConnectionSpec) (worksheet : Option String) : Action σ (List String) := do
  return Catalog.namedRanges (← tableNames spec) worksheet

/-- The statement that is run for the column names of a table. -/
def columnStatement (table : Table) : Rendered :=
  { Clauses.all with selection := .top 1 }.render table

/-- The column names of a table, taken from the reply before any row is read. -/
def columnNames (spec : ConnectionSpec) (table : Table) :
    Action σ (Except String (List String)) := do
  let reply ← ask (Backend.execute spec (columnStatement table))
  return reply.map fun r => r.table.columns

/-! ## Connections -/

/-- Uses a connection of its own, which is closed afterwards. -/
def withOwnConnection (spec : ConnectionSpec) (use : Action σ α) : Action σ α := do
  connect spec
  use.andFinally (Line.close spec)

/-- Uses the kept connection where it was opened in the same way. Another one is closed first, and
the new one is kept, whatever comes of its use. -/
def withKeptConnection (spec : ConnectionSpec) (use : Action σ α) : Action σ α :=
  fun line =>
    if line.kept = some spec then use line
    else (do connect spec; use.andFinally (Line.keep spec) : Action σ α) line.closeKept

/-- Uses a connection that was opened in that way. -/
def withConnection (persistent : Bool) (spec : ConnectionSpec) (use : Action σ α) : Action σ α :=
  if persistent then withKeptConnection spec use else withOwnConnection spec use

end Action

end SheetQuery
