import SheetQuery.ResultSet
import SheetQuery.Sql.Fault
import SheetQuery.Sql.Like
import SheetQuery.Sql.Syntax
import SheetQuery.Value.Compare

/-!
# Answers to statements

A statement answers over the table it names: rows that fit the condition are kept, put in order, and
cut down or condensed to what is selected. The columns of the condition and of the ordering are
looked up before any row is read, so a statement with an unknown column fails on an empty table as
well.
-/

namespace SheetQuery.Sql

/-- The name of a column that the source computes. -/
def computedColumn : String :=
  "Expr1000"

/-! ## Conditions -/

/-- The column that an operand names. -/
def Operand.column? : Operand → Option String
  | .column name => some name
  | .literal _ => none

/-- The columns that a condition names, from left to right. -/
def Condition.columns : Condition → List String
  | .and l r | .or l r => l.columns ++ r.columns
  | .not inner => inner.columns
  | .compare l _ r | .like l r => l.column?.toList ++ r.column?.toList
  | .isNull operand _ => operand.column?.toList

/-- The cell of a row in the first column of that name; nothing where there is none. -/
def cell (columns : List String) (row : List Value) (name : String) : Value :=
  ((columns.findIdx? (· == name)).bind fun i => row[i]?).getD .null

/-- The value of an operand in a row. -/
def Operand.value (columns : List String) (row : List Value) : Operand → Value
  | .column name => cell columns row name
  | .literal value => value

/-- The value is shown as a text that fits the pattern; a missing value fits none. -/
def fitsShown (target pattern : Value) : Bool :=
  !target.isNull && fits target.chars pattern.chars

/-- Whether a condition holds of a row. -/
def Condition.holds (columns : List String) (row : List Value) : Condition → Bool
  | .and l r => l.holds columns row && r.holds columns row
  | .or l r => l.holds columns row || r.holds columns row
  | .not inner => !inner.holds columns row
  | .compare l op r => Value.satisfies op (l.value columns row) (r.value columns row)
  | .isNull operand negated => (operand.value columns row).isNull != negated
  | .like target pattern => fitsShown (target.value columns row) (pattern.value columns row)

/-! ## Ordering -/

/-- The order of two cells: missing values first, and values without an order between them side by
side. -/
def compareCells (a b : Value) : Ordering :=
  match a.isNull, b.isNull with
  | true, true => .eq
  | true, false => .lt
  | false, true => .gt
  | false, false => (Value.compare a b).getD .eq

/-- The order of two cells in a direction. -/
def compareDirected : Direction → Value → Value → Ordering
  | .ascending, a, b => compareCells a b
  | .descending, a, b => (compareCells a b).swap

/-- The cell of a row at a position. -/
def cellAt (row : List Value) (i : Nat) : Value :=
  (row[i]?).getD .null

/-- Puts an element into a list that is sorted backwards, behind the last one that it does not
precede. -/
def insertBackwards {α : Type} (precedes : α → α → Bool) (x : α) : List α → List α
  | [] => [x]
  | y :: ys => if precedes x y then y :: insertBackwards precedes x ys else x :: y :: ys

/-- Sorts by insertion; elements of which neither precedes the other keep their order. -/
def sortBy {α : Type} (precedes : α → α → Bool) (xs : List α) : List α :=
  (xs.foldl (fun sorted x => insertBackwards precedes x sorted) []).reverse

/-- The rows in the order of one column. -/
def sortRows (i : Nat) (direction : Direction) (rows : List (List Value)) : List (List Value) :=
  sortBy (fun a b => compareDirected direction (cellAt a i) (cellAt b i) == .lt) rows

/-! ## Condensing -/

/-- The values that are equal to none before them. -/
def firstOccurrences (seen : List Value) : List Value → List Value
  | [] => []
  | v :: rest =>
    if seen.contains v then firstOccurrences seen rest
    else v :: firstOccurrences (seen ++ [v]) rest

/-- The value that none after it beats in the wanted direction. -/
def extreme (wanted : Ordering) : Value → List Value → Value
  | best, [] => best
  | best, v :: rest =>
    if Value.compare v best == some wanted then extreme wanted v rest else extreme wanted best rest

/-- The sum in floating-point numbers, from the left. A value that converts to nothing adds
nothing; one that does not convert stops the sum. -/
def floatSum : Float → List Value → Except Fault Float
  | total, [] => .ok total
  | total, v :: rest =>
    match v.convert .float with
    | .ok (.float x) => floatSum (total + x) rest
    | .ok _ => floatSum total rest
    | .error _ => .error .typeMismatch

/-- The value is a whole number. -/
def isWhole : Value → Bool
  | .int _ => true
  | _ => false

/-- A sum of words, which is finite, as a word. -/
def sumAsWord (total : Float) : Int64 :=
  Decimal.nearestWord ((Decimal.wholePart? total).getD 0)

/-- The sum of values: where all of them are whole numbers, the floating-point sum as a word. -/
def sumOf (values : List Value) : Except Fault Value := do
  let total ← floatSum 0.0 values
  return if values.all isWhole then .int (sumAsWord total) else .float total

/-- The mean of values; a value that converts to nothing counts as well. -/
def averageOf (values : List Value) : Except Fault Value := do
  let total ← floatSum 0.0 values
  return .float (total / Float.ofNat values.length)

/-- An aggregate of values that are not missing; nothing where there are none. -/
def Aggregate.of (function : Aggregate) (values : List Value) : Except Fault Value :=
  match function, values with
  | _, [] => .ok .null
  | .min, first :: rest => .ok (extreme .lt first rest)
  | .max, first :: rest => .ok (extreme .gt first rest)
  | .sum, values => sumOf values
  | .average, values => averageOf values

/-! ## Statements -/

/-- The position of a column that the statement needs. -/
def position (table : ResultSet) (name : String) : Except Fault Nat :=
  match table.position? name with
  | some i => .ok i
  | none => .error .missingParameter

/-- Refuses names that the table does not have. -/
def checkNames (table : ResultSet) (names : List String) : Except Fault Unit :=
  if names.all table.columns.contains then .ok () else .error .missingParameter

/-- The rows of the table that fit a condition. -/
def filterRows (table : ResultSet) : Option Condition → List (List Value)
  | some condition => table.rows.filter (condition.holds table.columns ·)
  | none => table.rows

/-- The cells of the rows in one column. -/
def columnCells (i : Nat) (rows : List (List Value)) : List Value :=
  rows.map (cellAt · i)

namespace Statement

/-- The rows that the statement is about, in order. -/
def sourceRows (s : Statement) (table : ResultSet) : Except Fault (List (List Value)) := do
  checkNames table ((s.condition.map Condition.columns).getD [])
  match s.orderBy with
  | none => return filterRows table s.condition
  | some (column, direction) =>
    let i ← position table column
    return sortRows i direction (filterRows table s.condition)

/-- What a selection makes of the rows. -/
def select (table : ResultSet) (rows : List (List Value)) : Selection → Except Fault ResultSet
  | .all => .ok ⟨table.columns, rows⟩
  | .top n => .ok ⟨table.columns, rows.take n⟩
  | .count => .ok (.single computedColumn (.int (Int64.ofNat rows.length)))
  | .distinct column => do
    let i ← position table column
    return ⟨[column], (firstOccurrences [] (columnCells i rows)).map ([·])⟩
  | .aggregate function column => do
    let i ← position table column
    let value ← function.of ((columnCells i rows).filter (!·.isNull))
    return .single computedColumn value

/-- The answer of a statement over its table. -/
def evaluate (s : Statement) (table : ResultSet) : Except Fault ResultSet := do
  select table (← s.sourceRows table) s.selection

end Statement

end SheetQuery.Sql
