import SheetQuery.Log
import SheetQuery.Projection
import SheetQuery.Source

/-!
# From returned rows to items

A result is a list of column names with rows of values. Under one item type each row becomes an
item; a lone column with the name that the source gives to computed values is no table but one
value. A record is filled field by field: the cell of the mapped column goes through the field's
transformation, then, for texts, through the trim policy, and then into the type of the field.
-/

namespace SheetQuery

/-- What came back for a query. -/
inductive Materialized where
  | items (items : List Item)
  | scalar (value : Value)

/-- What turning rows into items depends on. -/
structure Materializer where
  mapper : Mapper
  options : Options
  table : Table
  scalarColumn : String

namespace Materializer

/-- A text under the trim policy; other values stay as they are. -/
def trimmed (m : Materializer) (v : Value) : Value :=
  match v with
  | .text s => .text (String.ofList (m.options.trim.apply s.toList))
  | v => v

/-- The first cell of each row that has one, under the trim policy. -/
def columnValues (m : Materializer) (rows : List (List Value)) : List Value :=
  (rows.filterMap List.head?).map m.trimmed

/-- The rows with the names of the columns. -/
def rows (m : Materializer) (columns : List String) (rows : List (List Value)) :
    Except QueryError (List Row) :=
  (checkColumns columns).map fun _ => rows.map fun row => ⟨columns, row.map m.trimmed⟩

/-! ## Records -/

/-- The value that a raw cell leaves in a field. -/
def fieldValue (m : Materializer) (f : Field) (raw : Value) : Except QueryError Value := do
  let value := match m.mapper.transform? f.name with
    | some transform => transform raw.display
    | none => raw
  if f.type.kind = .text then
    let text ← (value.convert .text).mapError (QueryError.forField f.name)
    Record.stored f (m.trimmed text)
  else Record.stored f value

/-- The field is named like a returned column or mapped to some column. -/
def fieldHasColumn (m : Materializer) (columns : List String) (f : Field) : Bool :=
  columns.contains f.name || m.mapper.isMapped f.name

/-- The returned column is named like a field or some property is mapped to it. -/
def columnHasField (m : Materializer) (t : RecordType) (column : String) : Bool :=
  (t.field? column).isSome || m.mapper.isColumnMapped column

/-- The first violation of strict mapping: fields first, then columns. -/
def strictFault? (m : Materializer) (t : RecordType) (columns : List String) :
    Option StrictFault :=
  let mode := m.options.strictMapping
  let field :=
    if mode.checksFields then t.fields.find? fun f => !m.fieldHasColumn columns f else none
  let column :=
    if mode.checksColumns then columns.find? fun c => !m.columnHasField t c else none
  (field.map fun f => .property f.name) <|> column.map .column

/-- All checks before records are filled. -/
def checkRecords (m : Materializer) (t : RecordType) (columns : List String) :
    Except QueryError Unit := do
  t.check
  match m.strictFault? t columns with
  | some fault => .error (.strictMappingViolation fault)
  | none => .ok ()

/-- The position of the column that a field is read from. -/
def position? (m : Materializer) (columns : List String) (f : Field) : Option Nat :=
  columns.findIdx? (· == m.mapper.map f.name)

/-- The value of a field in the record of a row; without a cell it stays zero. -/
def fieldInRow (m : Materializer) (columns : List String) (row : List Value) (f : Field) :
    Except QueryError Value :=
  match (m.position? columns f).bind fun i => row[i]? with
  | some raw => m.fieldValue f raw
  | none => .ok f.type.zero

/-- The record of a row. -/
def record (m : Materializer) (t : RecordType) (columns : List String) (row : List Value) :
    Except QueryError Record :=
  (t.fields.mapM (m.fieldInRow columns row)).map fun values => ⟨t, values⟩

/-- A record for each row. -/
def records (m : Materializer) (t : RecordType) (columns : List String)
    (rows : List (List Value)) : Except QueryError (List Record) := do
  m.checkRecords t columns
  rows.mapM (m.record t columns)

/-- A record for each row with a cell, in which only one field is filled, from the first cell. -/
def fieldRecords (m : Materializer) (t : RecordType) (property : String)
    (rows : List (List Value)) : Except QueryError (List Record) := do
  t.check
  match t.field? property with
  | none => unsupported (.noSuchField property t.name)
  | some f => (rows.filterMap List.head?).mapM fun raw =>
      (m.fieldValue f raw).map fun v => (Record.zero t).replace f.name v

/-- The warning about a mapping to a column that was not returned. -/
def mappingWarning (m : Materializer) (property column : String) : LogEvent :=
  .warning ("'" ++ column ++ "' column that is mapped to the '" ++ property ++
    "' property does not exist in the '" ++ m.table.displayName ++ "' worksheet")

/-- A warning for each mapping to a column that was not returned. -/
def mappingWarnings (m : Materializer) (columns : List String) : List LogEvent :=
  (m.mapper.columns.filter fun entry => !columns.contains entry.2).map fun entry =>
    m.mappingWarning entry.1 entry.2

/-! ## Results -/

/-- The result is one computed value. -/
def isScalarResult (m : Materializer) (columns : List String) : Bool :=
  columns == [m.scalarColumn]

/-- The first cell of the first row; nothing without one. -/
def firstCell (rows : List (List Value)) : Value :=
  ((rows.head?).bind List.head?).getD .null

/-- One item for each row. -/
def items (m : Materializer) (type : ItemType) (columns : List String)
    (rows : List (List Value)) : Except QueryError (List Item) :=
  match type with
  | .row => (m.rows columns rows).map (·.map Item.row)
  | .headerless => .ok (rows.map fun row => .headerless (row.map m.trimmed))
  | .record t => (m.records t columns rows).map (·.map Item.record)

/-- The result of a query: one computed value, or an item for each row. -/
def materialize (m : Materializer) (type : ItemType) (columns : List String)
    (rows : List (List Value)) : Except QueryError Materialized :=
  if m.isScalarResult columns then .ok (.scalar (firstCell rows))
  else (m.items type columns rows).map .items

/-- What is reported beside the result. Only records that pass their checks are looked at for
mappings without a column. -/
def warnings (m : Materializer) (type : ItemType) (columns : List String) : List LogEvent :=
  match type with
  | .record t =>
    if m.isScalarResult columns then []
    else match m.checkRecords t columns with
      | .ok _ => m.mappingWarnings columns
      | .error _ => []
  | _ => []

/-- The values of a list of distinct values, read as a selected item would be. For a typed record
the first cell of each row goes through the field that is selected. -/
def distinctValues (m : Materializer) (type : ItemType) (selector : Expr)
    (rows : List (List Value)) : Except QueryError (List Value) :=
  match type, selector.unwrapped with
  | .record t, .member _ name => do
    let projector ← Projector.ofExpr selector
    let records ← m.fieldRecords t name rows
    records.mapM fun r => projector.applyTo (.record r)
  | _, _ => .ok (m.columnValues rows)

end Materializer

/-- The items of a result that was expected to have rows. -/
def Materialized.intoItems : Materialized → Except QueryError (List Item)
  | .items found => .ok found
  | .scalar v => .error (.driver
      ("expected rows, the source returned the single value '" ++ v.display ++ "'"))

/-- The value of a result that was expected to be one computed value. -/
def Materialized.intoScalar : Materialized → Except QueryError Value
  | .scalar v => .ok v
  | .items found => .error (.driver
      ("expected a single value, the source returned " ++ toString found.length ++ " rows"))

end SheetQuery
