import SheetQuery.Value.Convert

/-!
# Types of record fields

A field type reads any value into its own domain: first the conversion to its kind, then the zero of
the type where nothing came out. An optional type keeps nothing as nothing instead.
-/

namespace SheetQuery

/-- The plain field types. -/
inductive BaseType where
  | text
  | int64
  | int32
  | float
  | boolean
  | dateTime
  | date
  | any
  deriving DecidableEq, Repr

/-- A field type: a plain type or its optional form. -/
structure FieldType where
  base : BaseType
  optional : Bool
  deriving DecidableEq, Repr

namespace BaseType

/-- The kind that values are converted to. -/
def kind : BaseType → Kind
  | .text => .text
  | .int64 | .int32 => .integer
  | .float => .float
  | .boolean => .boolean
  | .dateTime | .date => .dateTime
  | .any => .any

/-- The value of a field that nothing was stored in. -/
def zero : BaseType → Value
  | .text => .text ""
  | .int64 | .int32 => .int 0
  | .float => .float 0.0
  | .boolean => .bool false
  | .dateTime | .date => .dateTime Calendar.DateTime.epoch
  | .any => .null

/-- The last step into the type, for a value already converted to its kind: the narrower types check
the range or drop the time of day. -/
def narrow (t : BaseType) (v : Value) : Except QueryError Value :=
  match t, v with
  | .any, v => .ok v
  | t, .null => .ok t.zero
  | .int32, .int i =>
    if -2147483648 ≤ i.toInt ∧ i.toInt ≤ 2147483647 then .ok (.int i)
    else .error (.conversion (Value.int i).display .int32 none)
  | .date, .dateTime d => .ok (.dateTime d.date.midnight)
  | _, v => .ok v

/-- Reads a value into the type. -/
def read (t : BaseType) (v : Value) : Except QueryError Value :=
  (v.convert t.kind).bind t.narrow

end BaseType

namespace FieldType

/-- The kind that values are converted to. -/
def kind (t : FieldType) : Kind :=
  t.base.kind

/-- The value of a field that nothing was stored in. -/
def zero (t : FieldType) : Value :=
  if t.optional then .null else t.base.zero

/-- Reads a value into the type. -/
def read (t : FieldType) (v : Value) : Except QueryError Value :=
  if t.optional then
    (v.convert t.kind).bind fun
      | .null => .ok .null
      | w => t.base.read w
  else t.base.read v

end FieldType

end SheetQuery
