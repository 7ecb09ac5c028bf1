import SheetQuery.Backend.Basic
import SheetQuery.Sql.Evaluation
import SheetQuery.Sql.Parser
import SheetQuery.Workbook.Basic

/-!
# The workbook engine

A backend over a workbook in memory. Every path opens the same workbook. The engine keeps the
statements it was given, also those it could not answer, and counts the connections that were opened
and those that are open. One failure can be set up for the next statement.
-/

namespace SheetQuery

/-- A workbook with the account of its use. -/
structure Engine where
  workbook : Workbook
  pendingFailure : Option String
  statements : List Rendered
  opened : Nat
  live : Nat

namespace Engine

/-- A workbook that has not been used. -/
def ofWorkbook (w : Workbook) : Engine :=
  ⟨w, none, [], 0, 0⟩

/-- Adds a worksheet to the workbook. -/
def addGrid (e : Engine) (name : String) (grid : Grid) : Engine :=
  { e with workbook := e.workbook.addGrid name grid }

/-- Lets the next statement fail with a message. -/
def failNext (e : Engine) (message : String) : Engine :=
  { e with pendingFailure := some message }

/-- The latest statement. -/
def lastStatement? (e : Engine) : Option Rendered :=
  e.statements.getLast?

/-- The answer of a workbook to a statement. -/
def answer (w : Workbook) (hasHeader : Bool) (statement : Rendered) :
    Except Sql.Fault ResultSet := do
  let s ← Sql.Statement.read? statement.sql.toList statement.params
  s.evaluate (← w.table s.table hasHeader)

/-- The account with one connection more. -/
def connect (e : Engine) : Engine :=
  { e with opened := e.opened + 1, live := e.live + 1 }

/-- The account with one open connection less. -/
def close (e : Engine) : Engine :=
  { e with live := e.live - 1 }

/-- The account with one statement more. A failure that was set up is used up. -/
def record (e : Engine) (statement : Rendered) : Engine :=
  { e with statements := e.statements ++ [statement], pendingFailure := none }

/-- The reply to a statement: the failure that was set up, else the answer of the workbook. -/
def reply (e : Engine) (hasHeader : Bool) (statement : Rendered) : Except String Reply :=
  match e.pendingFailure with
  | some message => .error message
  | none => match answer e.workbook hasHeader statement with
    | .ok table => .ok ⟨table, none⟩
    | .error fault => .error fault.message

end Engine

instance : Backend Engine where
  connect _ e := (.ok (), e.connect)
  execute spec statement e := (e.reply spec.hasHeader statement, e.record statement)
  tableNames _ e := (.ok e.workbook.tableNames, e)
  close _ e := (.ok (), e.close)
  computedColumn _ := Sql.computedColumn

end SheetQuery
