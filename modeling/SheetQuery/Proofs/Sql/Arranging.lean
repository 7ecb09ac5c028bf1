import Mathlib.Data.List.Nodup
import SheetQuery.Proofs.Backend.Bounds
import SheetQuery.Proofs.Sql.Ordering
import SheetQuery.Proofs.Workbook.Arranging

/-!
# Answers over columns in another order

A statement finds its columns by their names, and what it does with a position is only to take the
cell from there. So over a table with its columns in another order it keeps the same rows, puts them
in the same order and computes the same values; whole rows come back in the order of the columns.

Main statement: `Statement.evaluate_arranged`.
-/

namespace SheetQuery

open Sql

section Positions

variable {columns : List String} {order : List Nat} {name : String} {row : List Value}

/-- Under different names a name is found where it stands. -/
theorem findIdx?_iff_of_nodup (h : columns.Nodup) {i : Nat} :
    columns.findIdx? (· == name) = some i ↔ columns[i]? = some name := by
  constructor
  · intro hi
    obtain ⟨hlt, hname, -⟩ := List.findIdx?_eq_some_iff_getElem.mp hi
    rw [List.getElem?_eq_getElem hlt, eq_of_beq hname]
  · intro hi
    obtain ⟨hlt, hname⟩ := List.getElem?_eq_some_iff.mp hi
    refine List.findIdx?_eq_some_iff_getElem.mpr ⟨hlt, by rw [hname]; exact beq_self_eq_true name, ?_⟩
    intro j hj
    have hne : columns[j] ≠ name := fun heq =>
      absurd ((h.getElem_inj_iff).mp (heq.trans hname.symm)) (Nat.ne_of_lt hj)
    simpa using hne

theorem findIdx?_arranged_eq_none (horder : order.Perm (List.range columns.length))
    (h : columns.findIdx? (· == name) = none) :
    (arranged "" order columns).findIdx? (· == name) = none := by
  rw [List.findIdx?_eq_none_iff] at h ⊢
  exact fun other hother => h other ((arranged_perm horder).mem_iff.mp hother)

/-- In another order the name of a column stands where the order has its position. -/
theorem exists_findIdx?_arranged (hnodup : columns.Nodup)
    (horder : order.Perm (List.range columns.length)) {i : Nat}
    (h : columns.findIdx? (· == name) = some i) :
    ∃ j, (arranged "" order columns).findIdx? (· == name) = some j ∧ order[j]? = some i := by
  have hi := (findIdx?_iff_of_nodup hnodup).mp h
  have hmem : i ∈ order :=
    horder.mem_iff.mpr (List.mem_range.mpr (List.getElem?_eq_some_iff.mp hi).1)
  obtain ⟨j, hj⟩ := List.mem_iff_getElem?.mp hmem
  refine ⟨j, (findIdx?_iff_of_nodup ((arranged_perm horder).nodup_iff.mpr hnodup)).mpr ?_, hj⟩
  rw [getElem?_arranged, hj, Option.map_some, hi]
  rfl

theorem cellAt_arranged {i j : Nat} (h : order[j]? = some i) :
    cellAt (arranged .null order row) j = cellAt row i := by
  rw [cellAt, getElem?_arranged, h]
  rfl

/-- **A row has the same cell under a name** when the columns are in another order. -/
theorem cell_arranged (hnodup : columns.Nodup) (horder : order.Perm (List.range columns.length))
    (row : List Value) (name : String) :
    cell (arranged "" order columns) (arranged .null order row) name = cell columns row name := by
  cases hi : columns.findIdx? (· == name) with
  | some i =>
      obtain ⟨j, hj, hentry⟩ := exists_findIdx?_arranged hnodup horder hi
      rw [cell, cell, hi, hj]
      exact cellAt_arranged hentry
  | none =>
      rw [cell, cell, hi, findIdx?_arranged_eq_none horder hi]
      rfl

end Positions

namespace Sql

variable {t : ResultSet} {order : List Nat} (hnodup : t.columns.Nodup)
  (horder : order.Perm (List.range t.columns.length))

include hnodup horder

/-! ## Rows -/

/-- By induction on the condition, whose operands are cells and literals. -/
theorem Condition.holds_arranged (row : List Value) (k : Condition) :
    k.holds (arranged "" order t.columns) (arranged .null order row) = k.holds t.columns row := by
  have hvalue : ∀ operand : Operand,
      operand.value (arranged "" order t.columns) (arranged .null order row) =
        operand.value t.columns row := by
    intro operand
    cases operand with
    | column name => exact cell_arranged hnodup horder row name
    | literal v => rfl
  induction k with
  | and l r ihl ihr => simp only [holds, ihl, ihr]
  | or l r ihl ihr => simp only [holds, ihl, ihr]
  | not inner ih => simp only [holds, ih]
  | compare l op r => simp only [holds, hvalue]
  | isNull operand negated => simp only [holds, hvalue]
  | like target pattern => simp only [holds, hvalue]

theorem filterRows_arranged (condition : Option Condition) :
    filterRows (t.arranged order) condition =
      (filterRows t condition).map (arranged .null order) := by
  cases condition with
  | none => rfl
  | some k =>
      show (t.rows.map (arranged .null order)).filter _ = _
      rw [List.filter_map]
      refine congrArg _ (List.filter_congr fun row _ => ?_)
      exact k.holds_arranged hnodup horder row

omit hnodup in
theorem checkNames_arranged (names : List String) :
    checkNames (t.arranged order) names = checkNames t names := by
  have hcontains : ∀ name, (t.arranged order).columns.contains name = t.columns.contains name := by
    intro name
    rw [Bool.eq_iff_iff, List.contains_iff_mem, List.contains_iff_mem]
    exact (arranged_perm horder).mem_iff
  unfold checkNames
  rw [show (t.arranged order).columns.contains = t.columns.contains from funext hcontains]

/-- What is made at the position of a column is made at its position in the order, where the two go
together. -/
theorem position_bind_arranged {α β : Type} (name : String) {f : Nat → Except Fault α}
    {g : Nat → Except Fault β} (k : α → β) (h : ∀ i j, order[j]? = some i → g j = (f i).map k) :
    (position (t.arranged order) name >>= g) = (position t name >>= f).map k := by
  cases hi : t.columns.findIdx? (· == name) with
  | some i =>
      obtain ⟨j, hj, hentry⟩ := exists_findIdx?_arranged hnodup horder hi
      have hj' : position (t.arranged order) name = .ok j := position_ok_iff.mpr hj
      rw [position_ok_iff.mpr hi, hj', ok_bind, ok_bind, h i j hentry]
  | none =>
      have hnone : (t.arranged order).columns.findIdx? (· == name) = none :=
        findIdx?_arranged_eq_none horder hi
      simp only [position, ResultSet.position?, hi, hnone]
      rfl

omit hnodup horder in
theorem sortRows_arranged {i j : Nat} (h : order[j]? = some i) (direction : Direction)
    (rows : List (List Value)) :
    sortRows j direction (rows.map (arranged .null order)) =
      (sortRows i direction rows).map (arranged .null order) := by
  unfold sortRows
  rw [sortBy_map]
  simp only [cellAt_arranged h]

omit hnodup horder in
theorem columnCells_arranged {i j : Nat} (h : order[j]? = some i) (rows : List (List Value)) :
    columnCells j (rows.map (arranged .null order)) = columnCells i rows := by
  rw [columnCells, List.map_map]
  exact List.map_congr_left fun row _ => cellAt_arranged h

theorem Statement.sourceRows_arranged (s : Statement) :
    s.sourceRows (t.arranged order) =
      (s.sourceRows t).map (List.map (arranged .null order)) := by
  unfold sourceRows
  rw [checkNames_arranged horder, filterRows_arranged hnodup horder]
  cases checkNames t ((s.condition.map Condition.columns).getD []) with
  | error fault => rfl
  | ok u =>
      simp only [ok_bind]
      cases s.orderBy with
      | none => rfl
      | some key =>
          obtain ⟨column, direction⟩ := key
          exact position_bind_arranged hnodup horder column _ fun i j hentry =>
            congrArg Except.ok (sortRows_arranged hentry direction _)

/-! ## Answers -/

omit hnodup horder in
/-- What a selection gives over the columns in another order: whole rows in that order, or the same.
-/
def Selection.arrange (order : List Nat) (selection : Selection) (r : ResultSet) : ResultSet :=
  if selection.isWholeRow then r.arranged order else r

theorem Statement.select_arranged (rows : List (List Value)) (selection : Selection) :
    select (t.arranged order) (rows.map (arranged .null order)) selection =
      (select t rows selection).map (selection.arrange order) := by
  cases selection with
  | all => rfl
  | top n =>
      show Except.ok (ResultSet.mk _ _) = Except.ok (ResultSet.arranged order (ResultSet.mk _ _))
      rw [← List.map_take]
      rfl
  | count =>
      show Except.ok (ResultSet.single _ _) = Except.ok (ResultSet.single _ _)
      rw [List.length_map]
  | distinct column =>
      refine position_bind_arranged hnodup horder column _ fun i j hentry => ?_
      rw [columnCells_arranged hentry]
      rfl
  | aggregate function column =>
      refine position_bind_arranged hnodup horder column _ fun i j hentry => ?_
      rw [columnCells_arranged hentry]
      cases function.of ((columnCells i rows).filter (!·.isNull)) <;> rfl

/-- **A statement answers over the columns in another order as over the table**, but for the order
of the columns of whole rows. -/
theorem Statement.evaluate_arranged (s : Statement) :
    s.evaluate (t.arranged order) = (s.evaluate t).map (s.selection.arrange order) := by
  unfold evaluate
  rw [s.sourceRows_arranged hnodup horder]
  cases s.sourceRows t with
  | error fault => rfl
  | ok rows => exact select_arranged hnodup horder rows s.selection

end Sql

/-- What comes back over the columns in another order has the same cells under the same names. -/
theorem ResultSet.sameCells_arrange {t r : ResultSet} {order : List Nat} {s : Statement}
    (hnodup : t.columns.Nodup) (hrectangular : t.IsRectangular)
    (horder : order.Perm (List.range t.columns.length)) (h : s.evaluate t = .ok r) :
    r.SameCells (s.selection.arrange order r) := by
  unfold Selection.arrange
  split
  · next hwhole =>
      have hcolumns : r.columns = t.columns := by
        obtain ⟨rows, -, hselect⟩ := bind_eq_ok_iff.mp h
        generalize s.selection = selection at hwhole hselect
        cases selection with
        | all =>
            cases hselect
            rfl
        | top n =>
            cases hselect
            rfl
        | _ => cases hwhole
      refine Or.inr ⟨hcolumns ▸ hnodup, Statement.evaluate_isRectangular hrectangular h, order, ?_, rfl⟩
      rwa [hcolumns]
  · exact Or.inl rfl

/-- **Over the same cells under the same names a statement gives the same cells under the same
names**, or fails over both tables. -/
theorem ResultSet.SameCells.evaluate {t t' : ResultSet} (h : t.SameCells t') (s : Statement) :
    Matched SameCells (s.evaluate t) (s.evaluate t') := by
  rcases h with rfl | ⟨hnodup, hrectangular, order, horder, rfl⟩
  · cases s.evaluate t' with
    | error fault => exact .error _ fault fault
    | ok r => exact .ok (Or.inl rfl)
  · rw [s.evaluate_arranged hnodup horder]
    cases hr : s.evaluate t with
    | error fault => exact .error _ fault fault
    | ok r => exact .ok (sameCells_arrange hnodup hrectangular horder hr)

end SheetQuery
