import SheetQuery.Calendar.DateTime
import SheetQuery.Decimal.Notation
import SheetQuery.Decimal.Reading

/-!
# Cell values

What a cell of a spreadsheet holds, and what an expression over cells computes: nothing, a truth
value, a 64-bit whole number, a floating-point number, a text, a moment, or a record of named
values. A kind names one of these shapes as the target of a conversion.
-/

namespace SheetQuery

open Calendar

/-- A dynamically typed value. -/
inductive Value where
  | null
  | bool (b : Bool)
  | int (i : Int64)
  | float (x : Float)
  | text (s : String)
  | dateTime (t : DateTime)
  | record (fields : List (String × Value))

instance : Inhabited Value := ⟨.null⟩

/-- The representation that a conversion aims at; `any` leaves a value as it is. -/
inductive Kind where
  | text
  | integer
  | float
  | boolean
  | dateTime
  | any
  deriving DecidableEq, Repr

/-- The word for a kind. -/
def Kind.name : Kind → String
  | .text => "text"
  | .integer => "integer"
  | .float => "float"
  | .boolean => "boolean"
  | .dateTime => "datetime"
  | .any => "any"

namespace Value

/-- The value is missing. -/
def isNull : Value → Bool
  | .null => true
  | _ => false

/-- The characters of a text value. -/
def asText? : Value → Option String
  | .text s => some s
  | _ => none

/-- The word for the shape of a value. -/
def typeName : Value → String
  | .null => "null"
  | .bool _ => "bool"
  | .int _ => "integer"
  | .float _ => "float"
  | .text _ => "text"
  | .dateTime _ => "datetime"
  | .record _ => "record"

/-- The first field of that name in a record. -/
def field? (name : String) : Value → Option Value
  | .record fields => (fields.find? fun f => f.1 == name).map Prod.snd
  | _ => none

/-- A whole number as a floating-point number, rounded to nearest. -/
def ofWord (i : Int64) : Float :=
  Float.ofInt i.toInt

/-! ## Text -/

/-- The words for truth values. -/
def truthText (b : Bool) : List Char :=
  if b then ['t', 'r', 'u', 'e'] else ['f', 'a', 'l', 's', 'e']

mutual

/-- The characters a value is shown with; a missing value shows nothing. -/
def chars : Value → List Char
  | .null => []
  | .bool b => truthText b
  | .int i => Decimal.wholeText i.toInt
  | .float x => Decimal.plainText x
  | .text s => s.toList
  | .dateTime t => t.text
  | .record fields => ['\x7b', ' '] ++ fieldChars fields ++ [' ', '\x7d']

/-- Fields as `name = value`, with commas between them. -/
def fieldChars : List (String × Value) → List Char
  | [] => []
  | [(name, value)] => name.toList ++ [' ', '=', ' '] ++ chars value
  | (name, value) :: rest =>
    name.toList ++ [' ', '=', ' '] ++ chars value ++ [',', ' '] ++ fieldChars rest

end

/-- The text a value is shown with. -/
def display (v : Value) : String :=
  String.ofList v.chars

/-- The value is shown as one or more digits and nothing else. -/
def isNumericText (v : Value) : Bool :=
  !v.chars.isEmpty && v.chars.all Char.isDigit

/-! ## Equality -/

mutual

/-- Equality of shape and content. Floating-point numbers compare as numbers, so a not-a-number
value differs from itself and the two zeros are equal. -/
def same : Value → Value → Bool
  | .null, .null => true
  | .bool a, .bool b => a == b
  | .int a, .int b => a == b
  | .float a, .float b => a == b
  | .text a, .text b => a == b
  | .dateTime a, .dateTime b => a == b
  | .record a, .record b => sameFields a b
  | _, _ => false

/-- Equality of fields, name by name and value by value. -/
def sameFields : List (String × Value) → List (String × Value) → Bool
  | [], [] => true
  | (m, v) :: r, (n, w) :: s => m == n && same v w && sameFields r s
  | _, _ => false

end

instance : BEq Value := ⟨same⟩

end Value

end SheetQuery
