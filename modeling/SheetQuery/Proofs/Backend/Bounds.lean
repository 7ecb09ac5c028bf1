import SheetQuery.Backend.Engine
import SheetQuery.Proofs.Sql.Ordering
import SheetQuery.Proofs.Workbook.Tables

/-!
# Cells that are there

Answering a statement looks cells up by position: those of the condition, of the sort column and of
the selected column. The evaluation has an answer ready where a row has no such cell, which is
never wanted. A strict evaluation that stops there instead gives the same answers over every
rectangular table, and tables of a workbook are rectangular, as are the answers.

Main statements: `Sql.Statement.strictEvaluate_eq` and `Engine.execute_isRectangular`.
-/

namespace SheetQuery

namespace Sql

/-! ## Strict evaluation -/

/-- Why a strict evaluation ends without an answer: the fault of the statement, or a look for a cell
that the row does not have. -/
inductive Stop where
  | fault (fault : Fault)
  | noCell

/-- The cell of a row at a position. -/
def strictCell (row : List Value) (i : Nat) : Except Stop Value :=
  match row[i]? with
  | some v => .ok v
  | none => .error .noCell

/-- The value of an operand in a row. -/
def Operand.strictValue (columns : List String) (row : List Value) : Operand → Except Stop Value
  | .column name =>
    match columns.findIdx? (· == name) with
    | some i => strictCell row i
    | none => .error .noCell
  | .literal value => .ok value

/-- Whether a condition holds of a row; a side that does not matter is not looked at. -/
def Condition.strictHolds (columns : List String) (row : List Value) :
    Condition → Except Stop Bool
  | .and l r => do if ← l.strictHolds columns row then r.strictHolds columns row else return false
  | .or l r => do if ← l.strictHolds columns row then return true else r.strictHolds columns row
  | .not inner => do return !(← inner.strictHolds columns row)
  | .compare l op r => do
    return Value.satisfies op (← l.strictValue columns row) (← r.strictValue columns row)
  | .isNull operand negated => do return (← operand.strictValue columns row).isNull != negated
  | .like target pattern => do
    return fitsShown (← target.strictValue columns row) (← pattern.strictValue columns row)

/-- The rows in the order of one column. The cell of every row is looked at, whichever rows the sort
compares. -/
def strictSort (i : Nat) (direction : Direction) (rows : List (List Value)) :
    Except Stop (List (List Value)) := do
  let keyed ← rows.mapM fun row => return (← strictCell row i, row)
  return (sortBy (fun a b => compareDirected direction a.1 b.1 == .lt) keyed).map Prod.snd

/-- The rows of the table that fit a condition. -/
def strictFilter (table : ResultSet) : Option Condition → Except Stop (List (List Value))
  | some condition => table.rows.filterM (condition.strictHolds table.columns)
  | none => .ok table.rows

namespace Statement

/-- The rows that the statement is about, in order. -/
def strictRows (s : Statement) (table : ResultSet) : Except Stop (List (List Value)) := do
  (checkNames table ((s.condition.map Condition.columns).getD [])).mapError .fault
  match s.orderBy with
  | none => strictFilter table s.condition
  | some (column, direction) =>
    let i ← (position table column).mapError .fault
    strictSort i direction (← strictFilter table s.condition)

/-- What a selection makes of the rows. -/
def strictSelect (table : ResultSet) (rows : List (List Value)) :
    Selection → Except Stop ResultSet
  | .distinct column => do
    let i ← (position table column).mapError .fault
    let cells ← rows.mapM (strictCell · i)
    return ⟨[column], (firstOccurrences [] cells).map ([·])⟩
  | .aggregate function column => do
    let i ← (position table column).mapError .fault
    let cells ← rows.mapM (strictCell · i)
    let value ← (function.of (cells.filter (!·.isNull))).mapError .fault
    return .single computedColumn value
  | selection => (select table rows selection).mapError .fault

/-- The answer of a statement over its table. -/
def strictEvaluate (s : Statement) (table : ResultSet) : Except Stop ResultSet := do
  strictSelect table (← s.strictRows table) s.selection

end Statement

/-! ## Both evaluations agree -/

variable {columns : List String} {row : List Value} {table : ResultSet}

theorem mapError_bind {α β ε ε' : Type} (x : Except ε α) (f : α → Except ε β) (g : ε → ε') :
    (x >>= f).mapError g = x.mapError g >>= fun a => (f a).mapError g := by
  cases x <;> rfl

theorem strictCell_eq {i : Nat} (h : i < row.length) : strictCell row i = .ok (cellAt row i) := by
  unfold strictCell cellAt
  rw [List.getElem?_eq_getElem h]
  rfl

/-- A column of the table has a cell in every row of full length. -/
theorem Operand.strictValue_eq {o : Operand} (hlength : row.length = columns.length)
    (ho : ∀ name ∈ o.column?, name ∈ columns) :
    o.strictValue columns row = .ok (o.value columns row) := by
  cases o with
  | literal v => rfl
  | column name =>
      have hname : name ∈ columns := ho name rfl
      have hfound : (columns.findIdx? (· == name)).isSome = true := by
        rw [List.findIdx?_isSome, List.any_eq_true]
        exact ⟨name, hname, beq_self_eq_true name⟩
      obtain ⟨i, hi⟩ := Option.isSome_iff_exists.mp hfound
      have hlt : i < row.length := hlength ▸ (List.findIdx?_eq_some_iff_getElem.mp hi).1
      simp only [strictValue, value, cell, hi, Option.bind_some]
      exact strictCell_eq hlt

/-- By induction on the condition; whichever side is left out, the sides looked at agree. -/
theorem Condition.strictHolds_eq {c : Condition} (hlength : row.length = columns.length)
    (hc : ∀ name ∈ c.columns, name ∈ columns) :
    c.strictHolds columns row = .ok (c.holds columns row) := by
  induction c with
  | and l r ihl ihr =>
      have hl := ihl fun name h => hc name (List.mem_append_left _ h)
      have hr := ihr fun name h => hc name (List.mem_append_right _ h)
      rw [strictHolds, holds, hl, hr, ok_bind]
      cases l.holds columns row <;> rfl
  | or l r ihl ihr =>
      have hl := ihl fun name h => hc name (List.mem_append_left _ h)
      have hr := ihr fun name h => hc name (List.mem_append_right _ h)
      rw [strictHolds, holds, hl, hr, ok_bind]
      cases l.holds columns row <;> rfl
  | not inner ih =>
      rw [strictHolds, holds, ih hc]
      rfl
  | compare l op r =>
      have hl := l.strictValue_eq hlength fun name h =>
        hc name (List.mem_append_left _ (Option.mem_toList.mpr h))
      have hr := r.strictValue_eq hlength fun name h =>
        hc name (List.mem_append_right _ (Option.mem_toList.mpr h))
      rw [strictHolds, holds, hl, hr]
      rfl
  | isNull operand negated =>
      have ho := operand.strictValue_eq hlength fun name h => hc name (Option.mem_toList.mpr h)
      rw [strictHolds, holds, ho]
      rfl
  | like target pattern =>
      have ht := target.strictValue_eq hlength fun name h =>
        hc name (List.mem_append_left _ (Option.mem_toList.mpr h))
      have hp := pattern.strictValue_eq hlength fun name h =>
        hc name (List.mem_append_right _ (Option.mem_toList.mpr h))
      rw [strictHolds, holds, ht, hp]
      rfl

/-! ### Filtering and sorting -/

theorem filterAuxM_eq {α ε : Type} {strict : α → Except ε Bool} {lax : α → Bool} {xs : List α}
    (h : ∀ x ∈ xs, strict x = .ok (lax x)) (kept : List α) :
    xs.filterAuxM strict kept = .ok ((xs.filter lax).reverse ++ kept) := by
  induction xs generalizing kept with
  | nil => rfl
  | cons x xs ih =>
      have hrest := ih fun y hy => h y (List.mem_cons_of_mem _ hy)
      rw [List.filterAuxM, h x List.mem_cons_self, ok_bind, hrest, List.filter_cons]
      cases lax x
      · rfl
      · simp

theorem filterM_eq {α ε : Type} {strict : α → Except ε Bool} {lax : α → Bool} {xs : List α}
    (h : ∀ x ∈ xs, strict x = .ok (lax x)) : xs.filterM strict = .ok (xs.filter lax) := by
  rw [List.filterM, filterAuxM_eq h, ok_bind, List.append_nil, List.reverse_reverse]
  rfl

/-- Rows with a cell in the sort column are sorted by those cells. -/
theorem strictSort_eq {i : Nat} {direction : Direction} {rows : List (List Value)}
    (h : ∀ row ∈ rows, i < row.length) :
    strictSort i direction rows = .ok (sortRows i direction rows) := by
  have hkeyed : (rows.mapM fun row => do return (← strictCell row i, row)) =
      .ok (rows.map fun row => (cellAt row i, row)) := by
    rw [mapM_eq_ok_iff, List.forall₂_map_right_iff, List.forall₂_same]
    intro row hrow
    rw [strictCell_eq (h row hrow)]
    rfl
  rw [strictSort, hkeyed, ok_bind, sortBy_map, List.map_map]
  exact congrArg Except.ok (List.map_id _)

theorem mapM_strictCell {i : Nat} {rows : List (List Value)} (h : ∀ row ∈ rows, i < row.length) :
    rows.mapM (strictCell · i) = .ok (columnCells i rows) := by
  rw [mapM_eq_ok_iff, columnCells, List.forall₂_map_right_iff, List.forall₂_same]
  exact fun row hrow => strictCell_eq (h row hrow)

/-! ### Statements -/

theorem position_ok_iff {name : String} {i : Nat} :
    position table name = .ok i ↔ table.columns.findIdx? (· == name) = some i := by
  rw [position, ResultSet.position?]
  cases table.columns.findIdx? (· == name) <;> simp

theorem position_lt {name : String} {i : Nat} (h : position table name = .ok i) :
    i < table.columns.length :=
  (List.findIdx?_eq_some_iff_getElem.mp (position_ok_iff.mp h)).1

theorem mem_of_position {name : String} {i : Nat} (h : position table name = .ok i) :
    name ∈ table.columns := by
  obtain ⟨hlt, hname, -⟩ := List.findIdx?_eq_some_iff_getElem.mp (position_ok_iff.mp h)
  have heq : table.columns[i] = name := by simpa using hname
  exact heq ▸ List.getElem_mem hlt

theorem exists_position {name : String} (h : name ∈ table.columns) :
    ∃ i, position table name = .ok i := by
  have hfound : (table.columns.findIdx? (· == name)).isSome = true := by
    rw [List.findIdx?_isSome, List.any_eq_true]
    exact ⟨name, h, beq_self_eq_true name⟩
  obtain ⟨i, hi⟩ := Option.isSome_iff_exists.mp hfound
  exact ⟨i, position_ok_iff.mpr hi⟩

theorem cell_of_position {name : String} {i : Nat} (h : position table name = .ok i) :
    cell table.columns row name = cellAt row i := by
  rw [cell, position_ok_iff.mp h]
  rfl

theorem mem_of_mem_filterRows {condition : Option Condition} (h : row ∈ filterRows table condition) :
    row ∈ table.rows := by
  cases condition with
  | none => exact h
  | some condition => exact (List.mem_filter.mp h).1

/-- Once its columns are known to be there, a condition filters alike. -/
theorem strictFilter_eq (htable : table.IsRectangular) {condition : Option Condition}
    (h : checkNames table ((condition.map Condition.columns).getD []) = .ok ()) :
    strictFilter table condition = .ok (filterRows table condition) := by
  cases condition with
  | none => rfl
  | some condition =>
      have hnames : ∀ name ∈ condition.columns, name ∈ table.columns := by
        unfold checkNames at h
        split at h
        · next hall => simpa using hall
        · cases h
      exact filterM_eq fun row hrow => Condition.strictHolds_eq (htable row hrow) hnames

namespace Statement

variable {s : Statement}

theorem strictRows_eq (htable : table.IsRectangular) :
    s.strictRows table = (s.sourceRows table).mapError .fault := by
  unfold strictRows sourceRows
  rw [mapError_bind]
  cases hnames : checkNames table ((s.condition.map Condition.columns).getD []) with
  | error fault => rfl
  | ok u =>
      have hfilter := strictFilter_eq htable hnames
      cases s.orderBy with
      | none => exact hfilter
      | some ordering =>
          obtain ⟨column, direction⟩ := ordering
          cases hi : position table column with
          | error fault => simp [hi, Except.mapError]
          | ok i =>
              -- the rows that are left have a cell for each column
              have hrows : ∀ row ∈ filterRows table s.condition, i < row.length := by
                intro row hrow
                rw [htable row (mem_of_mem_filterRows hrow)]
                exact position_lt hi
              simp only [hi, hfilter, Except.mapError, ok_bind, strictSort_eq hrows]
              rfl

/-- The rows of a statement are those that its condition leaves, in some order. -/
theorem sourceRows_perm {rows : List (List Value)} (h : s.sourceRows table = .ok rows) :
    rows.Perm (filterRows table s.condition) := by
  obtain ⟨u, -, h⟩ := bind_eq_ok_iff.mp h
  cases ho : s.orderBy with
  | none =>
      rw [ho] at h
      cases h
      exact .refl _
  | some ordering =>
      obtain ⟨column, direction⟩ := ordering
      rw [ho] at h
      obtain ⟨i, -, h⟩ := bind_eq_ok_iff.mp h
      cases h
      exact sortBy_perm _ _

theorem mem_of_mem_sourceRows {rows : List (List Value)} (h : s.sourceRows table = .ok rows)
    {row : List Value} (hrow : row ∈ rows) : row ∈ table.rows :=
  mem_of_mem_filterRows ((sourceRows_perm h).mem_iff.mp hrow)

theorem length_sourceRows_le {rows : List (List Value)} (h : s.sourceRows table = .ok rows) :
    rows.length ≤ table.rows.length := by
  rw [(sourceRows_perm h).length_eq]
  cases s.condition with
  | none => exact Nat.le_refl _
  | some condition => exact List.length_filter_le _ _

theorem strictSelect_eq {rows : List (List Value)} {selection : Selection}
    (hrows : ∀ row ∈ rows, row.length = table.columns.length) :
    strictSelect table rows selection = (select table rows selection).mapError .fault := by
  have hinside : ∀ {name i}, position table name = .ok i → ∀ row ∈ rows, i < row.length := by
    intro name i hi row hrow
    rw [hrows row hrow]
    exact position_lt hi
  cases selection with
  | all => rfl
  | top n => rfl
  | count => rfl
  | distinct column =>
      simp only [strictSelect, select]
      cases hi : position table column with
      | error fault => rfl
      | ok i =>
          rw [show Except.mapError Stop.fault (.ok i) = .ok i from rfl, ok_bind, ok_bind,
            mapM_strictCell (hinside hi)]
          rfl
  | aggregate function column =>
      simp only [strictSelect, select]
      cases hi : position table column with
      | error fault => rfl
      | ok i =>
          rw [show Except.mapError Stop.fault (.ok i) = .ok i from rfl, ok_bind, ok_bind,
            mapM_strictCell (hinside hi), ok_bind]
          cases function.of ((columnCells i rows).filter (!·.isNull)) <;> rfl

/-- **No look at a cell fails.** Over a rectangular table the strict evaluation answers as the
evaluation does, with the faults of statements as the only ones. -/
theorem strictEvaluate_eq (htable : table.IsRectangular) :
    s.strictEvaluate table = (s.evaluate table).mapError .fault := by
  unfold strictEvaluate evaluate
  rw [mapError_bind, strictRows_eq htable]
  cases hrows : s.sourceRows table with
  | error fault => rfl
  | ok rows =>
      exact strictSelect_eq fun row hrow => htable row (mem_of_mem_sourceRows hrows hrow)

/-- **Answers over rectangular tables are rectangular.** -/
theorem evaluate_isRectangular (htable : table.IsRectangular) {r : ResultSet}
    (h : s.evaluate table = .ok r) : r.IsRectangular := by
  obtain ⟨rows, hrows, h⟩ := bind_eq_ok_iff.mp h
  have hwidth : ∀ row ∈ rows, row.length = table.columns.length := fun row hrow =>
    htable row (mem_of_mem_sourceRows hrows hrow)
  have hsingle : ∀ name value, (ResultSet.single name value).IsRectangular := by
    intro name value row hrow
    rw [List.mem_singleton.mp hrow]
    rfl
  unfold select at h
  split at h
  · cases h
    exact hwidth
  · cases h
    exact fun row hrow => hwidth row (List.mem_of_mem_take hrow)
  · cases h
    exact hsingle _ _
  · obtain ⟨i, -, h⟩ := bind_eq_ok_iff.mp h
    cases h
    intro row hrow
    obtain ⟨v, -, rfl⟩ := List.mem_map.mp hrow
    rfl
  · obtain ⟨i, -, h⟩ := bind_eq_ok_iff.mp h
    obtain ⟨value, -, h⟩ := bind_eq_ok_iff.mp h
    cases h
    exact hsingle _ _

end Statement

end Sql

/-! ## The engine -/

namespace Engine

/-- The answer of a workbook to a statement, evaluated strictly. -/
def strictAnswer (w : Workbook) (hasHeader : Bool) (statement : Rendered) :
    Except Sql.Stop ResultSet := do
  let s ← (Sql.Statement.read? statement.sql.toList statement.params).mapError .fault
  s.strictEvaluate (← (w.table s.table hasHeader).mapError .fault)

theorem strictAnswer_eq (w : Workbook) (hasHeader : Bool) (statement : Rendered) :
    strictAnswer w hasHeader statement = (answer w hasHeader statement).mapError .fault := by
  unfold strictAnswer answer
  rw [Sql.mapError_bind]
  cases Sql.Statement.read? statement.sql.toList statement.params with
  | error fault => rfl
  | ok s =>
      simp only [Except.mapError, ok_bind]
      cases htable : w.table s.table hasHeader with
      | error fault => rfl
      | ok table => exact Sql.Statement.strictEvaluate_eq (Workbook.table_isRectangular htable)

theorem answer_isRectangular {w : Workbook} {hasHeader : Bool} {statement : Rendered}
    {r : ResultSet} (h : answer w hasHeader statement = .ok r) : r.IsRectangular := by
  obtain ⟨s, -, h⟩ := bind_eq_ok_iff.mp h
  obtain ⟨table, htable, h⟩ := bind_eq_ok_iff.mp h
  exact Sql.Statement.evaluate_isRectangular (Workbook.table_isRectangular htable) h

/-- **Replies are rectangular, and every cell looked at on the way is there**, whatever the
workbook, the statement and its parameters are. -/
theorem execute_isRectangular (e : Engine) (spec : ConnectionSpec) (statement : Rendered) :
    (∀ reply, (Backend.execute spec statement e).1 = .ok reply → reply.table.IsRectangular) ∧
      strictAnswer e.workbook spec.hasHeader statement =
        (answer e.workbook spec.hasHeader statement).mapError .fault := by
  refine ⟨?_, strictAnswer_eq _ _ _⟩
  intro reply h
  have hreply : e.reply spec.hasHeader statement = .ok reply := h
  unfold Engine.reply at hreply
  split at hreply
  · cases hreply
  · split at hreply
    · next table hanswer =>
        cases hreply
        exact answer_isRectangular hanswer
    · cases hreply

end Engine

end SheetQuery
