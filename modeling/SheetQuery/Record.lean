import SheetQuery.FieldType

/-!
# Typed records

A record type declares named fields, each with a type and perhaps the column it is read from. A
declaration may be faulty; every use of a record type asks first whether it is. A record has one
value for each field of its type, in the order of the declaration.
-/

namespace SheetQuery

/-- A declared field. -/
structure Field where
  name : String
  type : FieldType
  hint : Option String
  deriving DecidableEq, Repr

/-- A record type as declared, not yet checked. -/
structure RecordType where
  name : String
  fields : List Field
  deriving DecidableEq, Repr

namespace RecordType

/-- A type without fields, to which declarations are added. -/
def named (name : String) : RecordType :=
  ⟨name, []⟩

/-- Declares a further field. -/
def field (t : RecordType) (name : String) (type : FieldType) : RecordType :=
  { t with fields := t.fields ++ [⟨name, type, none⟩] }

/-- Says which column the latest field is read from; without a field it says nothing. -/
def column (t : RecordType) (column : String) : RecordType :=
  match t.fields.getLast? with
  | some f => { t with fields := t.fields.dropLast ++ [{ f with hint := some column }] }
  | none => t

/-! ## Checking a declaration -/

/-- The fault of one field beside those before it. -/
def fieldFault? (before : List Field) (f : Field) : Option SchemaFault :=
  if f.name = "" then some .emptyName
  else if before.any (·.name == f.name) then some (.declaredTwice f.name)
  else match f.hint with
    | none => none
    | some column =>
      if column = "" then some (.emptyColumn f.name)
      else (before.find? (·.hint == some column)).map fun other =>
        .sharedColumn other.name f.name column

/-- The first fault of the fields that follow `before`. -/
def fieldsFault? : List Field → List Field → Option SchemaFault
  | _, [] => none
  | before, f :: rest =>
    match fieldFault? before f with
    | some fault => some fault
    | none => fieldsFault? (before ++ [f]) rest

/-- The first fault of the declaration. -/
def fault? (t : RecordType) : Option SchemaFault :=
  if t.fields.isEmpty then some .noFields else fieldsFault? [] t.fields

/-- Refuses a faulty declaration. -/
def check (t : RecordType) : Except QueryError Unit :=
  match t.fault? with
  | some fault => .error (.schema t.name fault)
  | none => .ok ()

/-! ## Reading a declaration -/

/-- The field of that name. -/
def field? (t : RecordType) (name : String) : Option Field :=
  t.fields.find? (·.name == name)

/-- The declared columns, by field. -/
def hints (t : RecordType) : List (String × String) :=
  t.fields.filterMap fun f => f.hint.map fun column => (f.name, column)

end RecordType

/-- A record: the values of the fields of its type. -/
structure Record where
  type : RecordType
  values : List Value

namespace Record

/-- The record in which nothing has been stored. -/
def zero (t : RecordType) : Record :=
  ⟨t, t.fields.map fun f => f.type.zero⟩

/-- The value of the field of that name. -/
def get? (r : Record) (name : String) : Option Value :=
  ((r.type.fields.zip r.values).find? fun entry => entry.1.name == name).map Prod.snd

/-- Puts a value in the place of the field of that name. -/
def replace (r : Record) (name : String) (value : Value) : Record :=
  { r with values := (r.type.fields.zip r.values).map fun entry =>
      if entry.1.name == name then value else entry.2 }

/-- The value that storing `value` in a field leaves there. -/
def stored (f : Field) (value : Value) : Except QueryError Value :=
  (f.type.read value).mapError (QueryError.forField f.name)

/-- Stores a value in a field. -/
def set (r : Record) (f : Field) (value : Value) : Except QueryError Record :=
  (stored f value).map fun v => r.replace f.name v

/-- The record of a checked type in which values have been stored, one after the other. Names that
are no field's are passed over. -/
def ofFields (t : RecordType) (values : List (String × Value)) : Except QueryError Record := do
  t.check
  values.foldlM (fun r entry =>
    match t.field? entry.1 with
    | some f => r.set f entry.2
    | none => .ok r) (zero t)

/-- All fields with their values. -/
def toValue (r : Record) : Value :=
  .record ((r.type.fields.map Field.name).zip r.values)

end Record

end SheetQuery
