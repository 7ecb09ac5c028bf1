import SheetQuery.ResultSet
import SheetQuery.Source
import SheetQuery.Statement

/-!
# Backends

What stands behind a session: something that opens a file, answers statements over it and lists its
tables. A backend is a state with four operations on it. Each may fail, in the backend's own words,
and changes the state either way. An open connection is known by the way in which it was opened.
-/

namespace SheetQuery

/-- The answer to a statement: a table, and the fault that the backend reports once the rows of the
table have been read. -/
structure Reply where
  table : ResultSet
  fault : Option String

/-- The table of a reply that is read to its end. -/
def Reply.readAll (r : Reply) : Except String ResultSet :=
  match r.fault with
  | none => .ok r.table
  | some message => .error message

/-- The operations of a backend with states in `σ`. A statement without an answer has a message in
place of the reply. -/
class Backend (σ : Type) where
  connect : ConnectionSpec → σ → Except String Unit × σ
  execute : ConnectionSpec → Rendered → σ → Except String Reply × σ
  tableNames : ConnectionSpec → σ → Except String (List String) × σ
  close : ConnectionSpec → σ → Except String Unit × σ
  computedColumn : σ → String

end SheetQuery
