import SheetQuery.Item
import SheetQuery.Text.Search
import SheetQuery.Value.Compare

/-!
# Selectors

A selector computes a value from an item. It is compiled once, which finds the shapes that no item
can save: a second source, a nested query. The compiled selector is then evaluated on each item, its
operands always all of them, from left to right; the first failure is the result.
-/

namespace SheetQuery

/-- The items bound to sources. -/
abbrev Bindings := List (Nat × Item)

namespace Bindings

/-- An item bound to the main source. -/
def main (item : Item) : Bindings :=
  [(mainSource, item)]

/-- Binds an item to a source, in place of an earlier one. -/
def bind (b : Bindings) (source : Nat) (item : Item) : Bindings :=
  b.filter (fun entry => entry.1 != source) ++ [(source, item)]

/-- The item bound to a source. -/
def item (b : Bindings) (source : Nat) : Except QueryError Item :=
  match b.lookup source with
  | some item => .ok item
  | none => unsupported (.unboundSource source)

end Bindings

/-! ## Operators on values -/

namespace Value

/-- Equality in selectors: a missing value equals itself only; other values are equal when they
compare as equal or are the same. -/
def equals (a b : Value) : Bool :=
  if a.isNull && b.isNull then true
  else if a.isNull || b.isNull then false
  else a.compare b == some .eq || a == b

/-- A comparison in selectors. -/
def compares (c : Comparison) (a b : Value) : Bool :=
  match c with
  | .eq => equals a b
  | .ne => !equals a b
  | c => satisfies c a b

/-- The exact result of an operation on whole numbers, division going toward zero; none for a
division by zero. -/
def exactArithmetic (op : Arithmetic) (a b : Int) : Option Int :=
  match op with
  | .add => some (a + b)
  | .sub => some (a - b)
  | .mul => some (a * b)
  | .div => if b = 0 then none else some (a.tdiv b)

/-- An operation on words, refused when its exact result is none or no word. -/
def wordArithmetic (op : Arithmetic) (a b : Int64) : Except QueryError Value :=
  match (exactArithmetic op a.toInt b.toInt).bind Decimal.word? with
  | some i => .ok (.int i)
  | none => unsupported (.arithmetic op)

/-- An operation on floating-point numbers. -/
def floatArithmetic (op : Arithmetic) (a b : Float) : Float :=
  match op with
  | .add => a + b
  | .sub => a - b
  | .mul => a * b
  | .div => a / b

/-- An operand as a floating-point number; blank text is none. -/
def operandFloat (v : Value) : Except QueryError Float :=
  match v.convert .float with
  | .ok (.float x) => .ok x
  | .ok w => refuse w .float
  | .error e => .error e

/-- An operation on numbers. A missing operand makes the result missing. -/
def arithmetic (op : Arithmetic) (a b : Value) : Except QueryError Value :=
  match a, b with
  | .null, _ => .ok .null
  | _, .null => .ok .null
  | .int i, .int j => wordArithmetic op i j
  | a, b => do
    let x ← a.operandFloat
    let y ← b.operandFloat
    return .float (floatArithmetic op x y)

/-- The value is a text. -/
def isText : Value → Bool
  | .text _ => true
  | _ => false

/-- An operator applied to two values. Adding to a text, or a text, joins the two as they are
shown. -/
def binary (op : BinaryOp) (a b : Value) : Except QueryError Value :=
  match op with
  | .and => .ok (.bool (a.isTruthy && b.isTruthy))
  | .or => .ok (.bool (a.isTruthy || b.isTruthy))
  | .compare c => .ok (.bool (compares c a b))
  | .arithmetic .add =>
    if a.isText || b.isText then .ok (.text (a.display ++ b.display)) else arithmetic .add a b
  | .arithmetic op => arithmetic op a b

/-- A test on the text of a value. A missing value passes none but the test for it. -/
def passes (test : TextTest) (target argument : Value) : Bool :=
  match test with
  | .isNullOrEmpty => match target with
    | .null => true
    | .text s => s.isEmpty
    | _ => false
  | .contains => !target.isNull && Text.holds target.chars argument.chars
  | .startsWith => !target.isNull && argument.chars.isPrefixOf target.chars
  | .endsWith => !target.isNull && argument.chars.isSuffixOf target.chars
  | .equals => !target.isNull && target.chars == argument.chars

/-- A function on the text of a value. A missing value stays missing. -/
def applyText (f : TextFunction) (v : Value) : Value :=
  if v.isNull then .null
  else match f with
    | .upper => .text (String.ofList (Text.upper v.chars))
    | .lower => .text (String.ofList (Text.lower v.chars))
    | .trim => .text (String.ofList (Text.trim v.chars))
    | .length => .int (Int64.ofNat v.chars.length)

end Value

/-! ## Compiling and evaluating -/

namespace Expr

/-- Refuses every source but the main one. -/
def checkSource (id : Nat) : Except QueryError Unit :=
  if id = mainSource then .ok () else unsupported .severalSources

mutual

/-- The first reason why an expression is no selector. -/
def checkSelector : Expr → Except QueryError Unit
  | .source id => checkSource id
  | .member id _ => checkSource id
  | .column id _ => checkSource id
  | .literal _ => .ok ()
  | .binary _ left right => do
    checkSelector left
    checkSelector right
  | .not e => checkSelector e
  | .test _ target none => checkSelector target
  | .test _ target (some argument) => do
    checkSelector target
    checkSelector argument
  | .apply _ e => checkSelector e
  | .convert _ e => checkSelector e
  | .record fields => checkFields fields
  | .subquery => unsupported .subqueryInSelector

/-- The first reason why a field of a record is no selector. -/
def checkFields : List (String × Expr) → Except QueryError Unit
  | [] => .ok ()
  | (_, e) :: rest => do
    checkSelector e
    checkFields rest

end

mutual

/-- The value of an expression where items are bound to sources. -/
def evaluate (b : Bindings) : Expr → Except QueryError Value
  | .source id => (b.item id).map Item.toValue
  | .member id name => (b.item id).bind fun item => item.member name
  | .column id c => (b.item id).bind fun item => item.column c
  | .literal v => .ok v
  | .binary op left right => do
    let l ← evaluate b left
    let r ← evaluate b right
    Value.binary op l r
  | .not e => (evaluate b e).map fun v => .bool (!v.isTruthy)
  | .test t target none => (evaluate b target).map fun v => .bool (v.passes t .null)
  | .test t target (some argument) => do
    let v ← evaluate b target
    let w ← evaluate b argument
    return .bool (v.passes t w)
  | .apply f e => (evaluate b e).map (Value.applyText f)
  | .convert kind e => (evaluate b e).bind (Value.convert kind)
  | .record fields => (evaluateFields b fields).map .record
  | .subquery => unsupported .subqueryInSelector

/-- The values of the fields of a record. -/
def evaluateFields (b : Bindings) : List (String × Expr) →
    Except QueryError (List (String × Value))
  | [] => .ok []
  | (name, e) :: rest => do
    let v ← evaluate b e
    let vs ← evaluateFields b rest
    return (name, v) :: vs

end

end Expr

/-- A compiled selector. -/
structure Projector where
  selector : Expr
  isSelector : selector.checkSelector = .ok ()

namespace Projector

/-- Compiles a selector. -/
def ofExpr (e : Expr) : Except QueryError Projector :=
  match h : e.checkSelector with
  | .ok () => .ok ⟨e, h⟩
  | .error fault => .error fault

/-- The value of the selector where items are bound to sources. -/
def apply (p : Projector) (b : Bindings) : Except QueryError Value :=
  p.selector.evaluate b

/-- The value of the selector on an item. -/
def applyTo (p : Projector) (item : Item) : Except QueryError Value :=
  p.apply (Bindings.main item)

end Projector

end SheetQuery
