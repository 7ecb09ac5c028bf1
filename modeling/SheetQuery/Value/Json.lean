import SheetQuery.Dictionary
import SheetQuery.Json.Number
import SheetQuery.Value.Basic

/-!
# Values and JSON

A value as a document, with records as lists of name and value, and a document as a value, with
objects in the order of their names and lists as records named by position.
-/

namespace SheetQuery.Value

mutual

/-- The document of a value. Moments are written as text. -/
def toJson : Value → Json
  | .null => .null
  | .bool b => .bool b
  | .int i => .whole i.toInt
  | .float x => .decimal x
  | .text s => .string s
  | .dateTime t => .string (String.ofList t.interchangeText)
  | .record fields => .list (fieldsToJson fields)

/-- Each field as a list of its name and its value. -/
def fieldsToJson : List (String × Value) → List Json
  | [] => []
  | (name, value) :: rest => .list [.string name, toJson value] :: fieldsToJson rest

end

mutual

/-- The value of a document. Whole numbers beyond the 64-bit range become floating-point. -/
def ofJson : Json → Value
  | .null => .null
  | .bool b => .bool b
  | .whole i => match Decimal.word? i with
    | some w => .int w
    | none => .float (Json.floatOfWhole i)
  | .decimal x => .float x
  | .string s => .text s
  | .list items => .record (itemFields 0 items)
  | .object members => .record (memberFields [] members)

/-- List items under their positions. -/
def itemFields : Nat → List Json → List (String × Value)
  | _, [] => []
  | i, item :: rest => (toString i, ofJson item) :: itemFields (i + 1) rest

/-- Members in the order of their names, the last of one name counting. -/
def memberFields : Dictionary Value → List (String × Json) → List (String × Value)
  | done, [] => done
  | done, (name, item) :: rest => memberFields (done.insert name (ofJson item)) rest

end

end SheetQuery.Value
