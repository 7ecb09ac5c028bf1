import SheetQuery.Value.Convert

/-!
# Comparing values

Values of one shape compare in their own order, numbers among each other as numbers. Against a
number or a moment a text is first read as one. A missing value compares with nothing, and shapes
that have nothing in common do not compare either.
-/

namespace SheetQuery.Value

/-- The order of floating-point numbers; a not-a-number value has no place in it. -/
def compareFloat (a b : Float) : Option Ordering :=
  if a < b then some .lt
  else if b < a then some .gt
  else if a == b then some .eq
  else none

/-- The order of words as whole numbers. -/
def compareWord (a b : Int64) : Ordering :=
  Ord.compare a.toInt b.toInt

/-- The order of texts, character by character in code-point order. -/
def compareText (a b : String) : Ordering :=
  Ord.compare a b

/-- False before true. -/
def compareBool (a b : Bool) : Ordering :=
  match a, b with
  | false, true => .lt
  | true, false => .gt
  | _, _ => .eq

/-- A text against a number. -/
def compareTextToNumber (s : String) (x : Float) : Option Ordering :=
  match toFloat (.text s) with
  | .ok y => compareFloat y x
  | .error _ => none

/-- A text against a moment. -/
def compareTextToMoment (s : String) (t : Calendar.DateTime) : Option Ordering :=
  match toDateTime (.text s) with
  | .ok u => some (u.compare t)
  | .error _ => none

/-- The order of two values, when they have one. -/
def compare : Value → Value → Option Ordering
  | .int a, .int b => some (compareWord a b)
  | .int a, .float b => compareFloat (ofWord a) b
  | .float a, .int b => compareFloat a (ofWord b)
  | .float a, .float b => compareFloat a b
  | .text a, .text b => some (compareText a b)
  | .bool a, .bool b => some (compareBool a b)
  | .dateTime a, .dateTime b => some (a.compare b)
  | .text a, .int b => compareTextToNumber a (ofWord b)
  | .text a, .float b => compareTextToNumber a b
  | .int a, .text b => (compareTextToNumber b (ofWord a)).map Ordering.swap
  | .float a, .text b => (compareTextToNumber b a).map Ordering.swap
  | .text a, .dateTime b => compareTextToMoment a b
  | .dateTime a, .text b => (compareTextToMoment b a).map Ordering.swap
  | _, _ => none

/-- Whether a comparison holds; what does not compare satisfies none. -/
def satisfies (c : Comparison) (a b : Value) : Bool :=
  match compare a b with
  | some o => c.holds o
  | none => false

/-- The value counts as true where a truth value is wanted. -/
def isTruthy : Value → Bool
  | .bool b => b
  | .int i => i != 0
  | .float x => x != 0.0
  | .text s => (readTruth? (trimmedChars s)).getD false
  | _ => false

@[simp] theorem compare_null_left (v : Value) : compare .null v = none := by
  cases v <;> rfl

@[simp] theorem compare_null_right (v : Value) : compare v .null = none := by
  cases v <;> rfl

end SheetQuery.Value
