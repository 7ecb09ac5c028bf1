import SheetQuery.Sql.Token
import SheetQuery.Text.Casing

/-!
# Reading statements

From tokens to a statement, with the parameters put in the places of the placeholders. Keywords are
ASCII words in letters of any case. Alternatives bind more loosely than conjunctions and both fold
to the left; a negation takes the shortest condition that follows it.

A reader takes a cursor and gives what it read with the cursor behind it. The rules that nest carry
a bound on their depth, which the number of tokens fills.
-/

namespace SheetQuery.Sql

/-- The words with a meaning of their own. -/
inductive Keyword where
  | select
  | top
  | count
  | from
  | where
  | order
  | by
  | ascending
  | descending
  | or
  | and
  | not
  | is
  | null
  | like
  deriving DecidableEq, Repr

/-- A keyword in capitals. -/
def Keyword.chars : Keyword → List Char
  | .select => "SELECT".toList
  | .top => "TOP".toList
  | .count => "COUNT".toList
  | .from => "FROM".toList
  | .where => "WHERE".toList
  | .order => "ORDER".toList
  | .by => "BY".toList
  | .ascending => "ASC".toList
  | .descending => "DESC".toList
  | .or => "OR".toList
  | .and => "AND".toList
  | .not => "NOT".toList
  | .is => "IS".toList
  | .null => "NULL".toList
  | .like => "LIKE".toList

/-- The word is the keyword, in letters of any case. -/
def Keyword.isWord (k : Keyword) (word : List Char) : Bool :=
  Text.upperAscii word == k.chars

/-- The place of a reader: the tokens ahead, the number of those behind, and the parameters that no
placeholder has taken. -/
structure Cursor where
  ahead : List Token
  position : Nat
  unbound : List Value

namespace Cursor

/-- The place behind the next token, also where there is none. -/
def next (c : Cursor) : Cursor :=
  { c with ahead := c.ahead.tail, position := c.position + 1 }

/-- Reports what was wanted at the place. -/
def wants {α : Type} (c : Cursor) (what : Expected) : Except Fault α :=
  .error (.expected what c.position)

/-- The keyword stands next. -/
def seesKeyword (c : Cursor) (k : Keyword) : Bool :=
  match c.ahead with
  | .word word :: _ => k.isWord word
  | _ => false

/-- Passes over the keyword where it stands next, and tells whether it did. -/
def skipKeyword (c : Cursor) (k : Keyword) : Bool × Cursor :=
  if c.seesKeyword k then (true, c.next) else (false, c)

/-- Passes over the keyword. -/
def keyword (c : Cursor) (k : Keyword) : Except Fault Cursor :=
  if c.seesKeyword k then .ok c.next else c.wants (.keyword k.chars)

/-- Passes over an opening parenthesis. -/
def opening (c : Cursor) : Except Fault Cursor :=
  match c.ahead with
  | .opening :: _ => .ok c.next
  | _ => c.wants .opening

/-- Passes over a closing parenthesis. -/
def closing (c : Cursor) : Except Fault Cursor :=
  match c.ahead with
  | .closing :: _ => .ok c.next
  | _ => c.wants .closing

/-- Passes over a star. -/
def star (c : Cursor) : Except Fault Cursor :=
  match c.ahead with
  | .star :: _ => .ok c.next
  | _ => c.wants .star

/-- Reads a name in brackets. -/
def name (c : Cursor) : Except Fault (String × Cursor) :=
  match c.ahead with
  | .name name :: _ => .ok (String.ofList name, c.next)
  | _ => c.next.wants .name

/-- Passes over a parenthesis, reads a name in brackets and passes over the other parenthesis. -/
def argument (c : Cursor) : Except Fault (String × Cursor) := do
  let c ← c.opening
  let (name, c) ← c.name
  let c ← c.closing
  return (name, c)

/-! ## Conditions -/

/-- Takes the next parameter into the place of the placeholder that stands next. -/
def bind (c : Cursor) : Except Fault (Operand × Cursor) :=
  match c.unbound with
  | value :: unbound => .ok (.literal value, { c.next with unbound := unbound })
  | [] => .error .missingParameter

/-- Reads one side of a comparison. -/
def operand (c : Cursor) : Except Fault (Operand × Cursor) :=
  match c.ahead with
  | .name name :: _ => .ok (.column (String.ofList name), c.next)
  | .placeholder :: _ => c.bind
  | .text text :: _ => .ok (.literal (.text (String.ofList text)), c.next)
  | .number value :: _ => .ok (.literal value, c.next)
  | .word word :: _ =>
    if Keyword.null.isWord word then .ok (.literal .null, c.next) else c.next.wants .operand
  | _ => c.next.wants .operand

/-- Reads a comparison sign. -/
def comparisonSign (c : Cursor) : Except Fault (Comparison × Cursor) :=
  match c.ahead with
  | .comparison op :: _ => .ok (op, c.next)
  | _ => c.next.wants .comparison

/-- Reads a comparison with a missing value, behind the operand and its keyword. -/
def nullTest (left : Operand) (c : Cursor) : Except Fault (Condition × Cursor) := do
  let (negated, c) := c.skipKeyword .not
  let c ← c.keyword .null
  return (.isNull left negated, c)

/-- Reads a condition that contains no other. -/
def simpleCondition (c : Cursor) : Except Fault (Condition × Cursor) := do
  let (left, c) ← c.operand
  if c.seesKeyword .is then c.next.nullTest left
  else if c.seesKeyword .like then
    let (pattern, c) ← c.next.operand
    return (.like left pattern, c)
  else
    let (op, c) ← c.comparisonSign
    let (right, c) ← c.operand
    return (.compare left op right, c)

/-- Reads on at most `n` times behind a condition: the keyword, a further condition, and the two
joined. -/
def chain (k : Keyword) (join : Condition → Condition → Condition)
    (item : Cursor → Except Fault (Condition × Cursor)) :
    Nat → Condition → Cursor → Except Fault (Condition × Cursor)
  | 0, left, c => .ok (left, c)
  | n + 1, left, c =>
    if c.seesKeyword k then do
      let (right, c) ← item c.next
      chain k join item n (join left right) c
    else .ok (left, c)

/-- Reads conditions with the keyword between them. -/
def chained (k : Keyword) (join : Condition → Condition → Condition)
    (item : Cursor → Except Fault (Condition × Cursor)) (n : Nat) (c : Cursor) :
    Except Fault (Condition × Cursor) := do
  let (left, c) ← item c
  chain k join item n left c

/-- Reads alternatives of conjunctions of items. -/
def alternatives (item : Cursor → Except Fault (Condition × Cursor)) (n : Nat) :
    Cursor → Except Fault (Condition × Cursor) :=
  chained .or .or (chained .and .and item n) n

/-- Reads a condition in parentheses, behind the opening one. -/
def enclosed (inner : Cursor → Except Fault (Condition × Cursor)) (c : Cursor) :
    Except Fault (Condition × Cursor) := do
  let (condition, c) ← inner c
  let c ← c.closing
  return (condition, c)

/-- Reads a negation, a condition in parentheses or a simple condition. -/
def unit : Nat → Cursor → Except Fault (Condition × Cursor)
  | 0, c => c.next.wants .operand
  | n + 1, c =>
    if c.seesKeyword .not then do
      let (condition, c) ← unit n c.next
      return (.not condition, c)
    else match c.ahead with
      | .opening :: _ => enclosed (alternatives (unit n) n) c.next
      | _ => c.simpleCondition

/-- Reads a condition. -/
def condition (c : Cursor) : Except Fault (Condition × Cursor) :=
  alternatives (unit (c.ahead.length + 1)) c.ahead.length c

/-! ## Statements -/

/-- The selection that a function of a column makes, by its word in capitals. -/
def functionSelection? (word : List Char) (column : String) : Except Fault Selection :=
  match String.ofList word with
  | "DISTINCT" => .ok (.distinct column)
  | "SUM" => .ok (.aggregate .sum column)
  | "MIN" => .ok (.aggregate .min column)
  | "MAX" => .ok (.aggregate .max column)
  | "AVG" => .ok (.aggregate .average column)
  | other => .error (.undefinedFunction other)

/-- Reads the number of rows to keep, behind its keyword. -/
def rowCount (c : Cursor) : Except Fault (Nat × Cursor) :=
  match c.ahead with
  | .number (.int n) :: _ =>
    if 0 ≤ n.toInt then .ok (n.toInt.toNat, c.next) else c.next.wants .rowCount
  | _ => c.next.wants .rowCount

/-- Reads a function of a column. The function is judged last. -/
def functionCall (c : Cursor) : Except Fault (Selection × Cursor) :=
  match c.ahead with
  | .word word :: _ => do
    let (column, c) ← c.next.argument
    let selection ← functionSelection? (Text.upperAscii word) column
    return (selection, c)
  | _ => c.next.wants .selection

/-- Reads what is selected. -/
def selection (c : Cursor) : Except Fault (Selection × Cursor) :=
  match c.ahead with
  | .star :: _ => .ok (.all, c.next)
  | _ =>
    if c.seesKeyword .top then do
      let (n, c) ← c.next.rowCount
      let c ← c.star
      return (.top n, c)
    else if c.seesKeyword .count then do
      let c ← c.next.opening
      let c ← c.star
      let c ← c.closing
      return (.count, c)
    else c.functionCall

/-- Reads the condition of a statement, where there is one. -/
def whereClause (c : Cursor) : Except Fault (Option Condition × Cursor) :=
  if c.seesKeyword .where then do
    let (condition, c) ← c.next.condition
    return (some condition, c)
  else .ok (none, c)

/-- Reads the direction of a sort column; rows ascend where nothing is said. -/
def direction (c : Cursor) : Direction × Cursor :=
  if c.seesKeyword .descending then (.descending, c.next)
  else (.ascending, (c.skipKeyword .ascending).2)

/-- Reads the ordering of a statement, where there is one. -/
def orderClause (c : Cursor) : Except Fault (Option (String × Direction) × Cursor) :=
  if c.seesKeyword .order then do
    let c ← c.next.keyword .by
    let (column, c) ← c.name
    let (direction, c) := c.direction
    return (some (column, direction), c)
  else .ok (none, c)

/-- Checks that nothing is left: first of the tokens, then of the parameters. -/
def ending (c : Cursor) (parameters : Nat) : Except Fault Unit :=
  if !c.ahead.isEmpty then c.wants .ending
  else if !c.unbound.isEmpty then
    .error (.parameterCount (parameters - c.unbound.length) parameters)
  else .ok ()

end Cursor

/-- The statement that the tokens and the parameters make up. -/
def Statement.ofTokens? (tokens : List Token) (params : List Value) : Except Fault Statement := do
  let c : Cursor := ⟨tokens, 0, params⟩
  let c ← c.keyword .select
  let (selection, c) ← c.selection
  let c ← c.keyword .from
  let (table, c) ← c.name
  let (condition, c) ← c.whereClause
  let (orderBy, c) ← c.orderClause
  c.ending params.length
  return ⟨selection, table, condition, orderBy⟩

/-- The statement of a text with its parameters. -/
def Statement.read? (sql : List Char) (params : List Value) : Except Fault Statement := do
  Statement.ofTokens? (← Token.ofChars? sql) params

end SheetQuery.Sql
