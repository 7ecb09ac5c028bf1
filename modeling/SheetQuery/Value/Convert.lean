import SheetQuery.Calendar.Pattern
import SheetQuery.Calendar.Serial
import SheetQuery.Error

/-!
# Converting values between kinds

One table turns a value into the representation of a kind. A missing value stays missing under every
kind, and blank text is missing for every kind but text. What has no entry in the table is refused
with the text of the value.
-/

namespace SheetQuery

open Decimal

namespace Value

/-- The refusal of a value. -/
def refuse {α : Type} (v : Value) (target : Target) : Except QueryError α :=
  .error (.conversion v.display target none)

/-- The characters of a text without the blanks around it. -/
def trimmedChars (s : String) : List Char :=
  Text.trim s.toList

/-- A whole number as text: digits of a 64-bit word, or a decimal without a fraction in that
range. -/
def readWholeText? (s : List Char) : Option Int64 :=
  readWord? s <|> ((readFloat? s).bind exactWhole?).bind word?

/-- The value as a 64-bit whole number. Floating-point numbers are rounded, a half away from
zero. -/
def toInteger : Value → Except QueryError Int64
  | .int i => .ok i
  | .float x =>
    match (roundAway? x).bind word? with
    | some i => .ok i
    | none => refuse (.float x) .integer
  | .bool b => .ok (if b then 1 else 0)
  | .text s =>
    match readWholeText? (trimmedChars s) with
    | some i => .ok i
    | none => refuse (.text (String.ofList (trimmedChars s))) .integer
  | v => refuse v .integer

/-- The value as a floating-point number. -/
def toFloat : Value → Except QueryError Float
  | .float x => .ok x
  | .int i => .ok (ofWord i)
  | .bool b => .ok (if b then 1.0 else 0.0)
  | .text s =>
    match readFloat? (trimmedChars s) with
    | some x => .ok x
    | none => refuse (.text s) .float
  | v => refuse v .float

/-- The truth value that a text spells, in letters of any case. -/
def readTruth? (s : List Char) : Option Bool :=
  let word := Text.lowerAscii s
  if word = truthText true then some true
  else if word = truthText false then some false
  else none

/-- The value as a truth value; numbers are true unless they are zero. -/
def toBool : Value → Except QueryError Bool
  | .bool b => .ok b
  | .int i => .ok (i != 0)
  | .float x => .ok (x != 0.0)
  | .text s =>
    match readTruth? (trimmedChars s) with
    | some b => .ok b
    | none => refuse (.text s) .boolean
  | v => refuse v .boolean

/-- The value as a moment; numbers are serial dates. -/
def toDateTime : Value → Except QueryError Calendar.DateTime
  | .dateTime t => .ok t
  | .int i =>
    match Calendar.ofSerial? (ofWord i) with
    | some t => .ok t
    | none => refuse (.int i) .dateTime
  | .float x =>
    match Calendar.ofSerial? x with
    | some t => .ok t
    | none => refuse (.float x) .dateTime
  | .text s =>
    match Calendar.readDateTime? (trimmedChars s) with
    | some t => .ok t
    | none => refuse (.text s) .dateTime
  | v => refuse v .dateTime

/-- The value is a text of blanks only. -/
def isBlankText : Value → Bool
  | .text s => Text.allBlank s.toList
  | _ => false

/-- The value as text; only text itself keeps its characters unseen. -/
def toText : Value → Value
  | .text s => .text s
  | v => .text v.display

/-- The value in the representation of a kind. -/
def convert (kind : Kind) (v : Value) : Except QueryError Value :=
  if v.isNull || kind == .any then .ok v
  else if kind != .text && v.isBlankText then .ok .null
  else match kind with
    | .text => .ok v.toText
    | .integer => v.toInteger.map .int
    | .float => v.toFloat.map .float
    | .boolean => v.toBool.map .bool
    | .dateTime => v.toDateTime.map .dateTime
    | .any => .ok v

/-! ## Small facts about the table -/

@[simp] theorem convert_null (kind : Kind) : convert kind .null = .ok .null := rfl

@[simp] theorem convert_any (v : Value) : convert .any v = .ok v := by
  cases v <;> rfl

theorem convert_text (v : Value) (h : v.isNull = false) : convert .text v = .ok v.toText := by
  simp [convert, h]

end Value

end SheetQuery
