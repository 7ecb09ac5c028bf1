import SheetQuery.Filter.OfExpr
import SheetQuery.Record
import SheetQuery.Row

/-!
# Items of a query

What a query yields for each row of its result: a row with column names, a row without, or a typed
record. An item answers for its members and columns, each shape in its own way, and it can be taken
as one value.
-/

namespace SheetQuery

/-- What the items of a query are. -/
inductive ItemType where
  | row
  | headerless
  | record (type : RecordType)
  deriving DecidableEq, Repr

/-- An item of a query. -/
inductive Item where
  | row (row : Row)
  | headerless (cells : List Value)
  | record (record : Record)

namespace ItemType

/-- The shape that a query for such items has. -/
def shape : ItemType → ItemShape
  | .row => .row
  | .headerless => .headerless
  | .record t => .record t.name

/-- The columns declared on the type, by field. -/
def hints : ItemType → Except QueryError (List (String × String))
  | .record t => t.check.map fun _ => t.hints
  | _ => .ok []

/-- The first row of the source holds column names. -/
def hasHeader : ItemType → Bool
  | .headerless => false
  | _ => true

end ItemType

namespace Item

/-- The cell at a position. -/
def cellAt (cells : List Value) (index : Nat) : Except QueryError Value :=
  match cells[index]? with
  | some v => .ok v
  | none => unsupported (.indexOutOfRange index)

/-- The member of that name. -/
def member (item : Item) (name : String) : Except QueryError Value :=
  match item with
  | .row r => r.get name
  | .headerless _ => unsupported (.memberWithoutHeader name)
  | .record r => do
    r.type.check
    match r.get? name with
    | some v => .ok v
    | none => unsupported (.noSuchField name r.type.name)

/-- The column addressed by name or position. -/
def column (item : Item) (c : ColumnRef) : Except QueryError Value :=
  match item, c with
  | .row r, .named name => r.get name
  | .row r, .positioned index => cellAt r.cells index
  | .headerless cells, .positioned index => cellAt cells index
  | .headerless _, .named name => unsupported (.columnWithoutHeader name)
  | .record r, c => unsupported (.columnOfRecord c r.type.name)

/-- Cells under the names of their positions. -/
def positionFields (cells : List Value) : List (String × Value) :=
  cells.zipIdx.map fun (v, i) => (positionName i, v)

/-- The item as one value. A record of a faulty type has none. -/
def toValue : Item → Value
  | .row r => r.toValue
  | .headerless cells => .record (positionFields cells)
  | .record r => if r.type.fault?.isSome then .null else r.toValue

end Item

end SheetQuery
