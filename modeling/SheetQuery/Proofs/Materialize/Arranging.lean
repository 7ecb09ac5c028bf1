import SheetQuery.Proofs.Materialize.Strictness
import SheetQuery.Proofs.Sql.Arranging

/-!
# Records from columns in another order

A field finds its cell by the name of its column, and the checks of strict mapping ask only which
names there are. So the records that are made of a result do not hang on where its columns stand.

Main statement: `Materializer.materialize_sameCells`.
-/

namespace SheetQuery.Materializer

open Sql

variable {m : Materializer} {t : RecordType} {columns columns' : List String} {order : List Nat}

/-! ## Checks -/

theorem isScalarResult_perm (h : columns'.Perm columns) :
    m.isScalarResult columns' = m.isScalarResult columns := by
  unfold isScalarResult
  rw [Bool.eq_iff_iff, beq_iff_eq, beq_iff_eq]
  constructor
  · intro hcolumns
    exact List.perm_singleton.mp (hcolumns ▸ h.symm)
  · intro hcolumns
    exact List.perm_singleton.mp (hcolumns ▸ h)

/-- Strict mapping asks for the names that there are. -/
theorem strictFault?_perm (h : columns'.Perm columns) :
    m.strictFault? t columns' = none ↔ m.strictFault? t columns = none := by
  have hfield : m.fieldHasColumn columns' = m.fieldHasColumn columns := by
    funext f
    have hcontains : columns'.contains f.name = columns.contains f.name := by
      rw [Bool.eq_iff_iff, List.contains_iff_mem, List.contains_iff_mem]
      exact h.mem_iff
    rw [fieldHasColumn, fieldHasColumn, hcontains]
  rw [strictFault?_eq_none_iff, strictFault?_eq_none_iff, hfield]
  refine and_congr_right fun _ => imp_congr_right fun _ => ?_
  exact forall_congr' fun column => imp_congr_left h.mem_iff

theorem checkRecords_perm (h : columns'.Perm columns) :
    m.checkRecords t columns' = .ok () ↔ m.checkRecords t columns = .ok () := by
  rw [checkRecords_ok_iff, checkRecords_ok_iff, strictFault?_perm h]

/-! ## Records -/

section Arranged

variable (hnodup : columns.Nodup) (horder : order.Perm (List.range columns.length))

include hnodup horder

/-- A field is filled from the same cell. -/
theorem fieldInRow_arranged {row : List Value} (hlength : row.length = columns.length) (f : Field) :
    m.fieldInRow (arranged "" order columns) (arranged .null order row) f =
      m.fieldInRow columns row f := by
  have hlookup : ((arranged "" order columns).findIdx? (· == m.mapper.map f.name)).bind
      (fun i => (arranged .null order row)[i]?) =
        (columns.findIdx? (· == m.mapper.map f.name)).bind fun i => row[i]? := by
    by_cases hname : m.mapper.map f.name ∈ columns
    · have hname' : m.mapper.map f.name ∈ arranged "" order columns :=
        (arranged_perm horder).mem_iff.mpr hname
      rw [lookup_eq_cell hlength hname, lookup_eq_cell (by simp) hname',
        cell_arranged hnodup horder]
    · have hnone : columns.findIdx? (· == m.mapper.map f.name) = none :=
        List.findIdx?_eq_none_iff.mpr fun other hother =>
          beq_false_of_ne fun heq => hname (heq ▸ hother)
      rw [hnone, findIdx?_arranged_eq_none horder hnone]
      rfl
  unfold fieldInRow position?
  rw [hlookup]

theorem record_arranged {row : List Value} (hlength : row.length = columns.length) :
    m.record t (arranged "" order columns) (arranged .null order row) = m.record t columns row := by
  unfold record
  rw [funext (fieldInRow_arranged hnodup horder hlength)]

theorem mapM_record_arranged {rows : List (List Value)}
    (hrows : ∀ row ∈ rows, row.length = columns.length) :
    (rows.map (arranged .null order)).mapM (m.record t (arranged "" order columns)) =
      rows.mapM (m.record t columns) := by
  induction rows with
  | nil => rfl
  | cons row rest ih =>
      obtain ⟨hrow, hrest⟩ := List.forall_mem_cons.mp hrows
      rw [List.map_cons, List.mapM_cons, List.mapM_cons, record_arranged hnodup horder hrow, ih hrest]

end Arranged

/-- A lone column is not moved. -/
theorem firstCell_arranged {order : List Nat} (h : order = [0]) (rows : List (List Value)) :
    firstCell (rows.map (arranged .null order)) = firstCell rows := by
  subst h
  cases rows with
  | nil => rfl
  | cons row rest =>
      cases row with
      | nil => rfl
      | cons cell cells => rfl

/-- **Results with the same cells under the same names make the same records**, or the same computed
value, or are both refused. -/
theorem materialize_sameCells {r r' : ResultSet} (h : r.SameCells r') {made : Materialized} :
    m.materialize (.record t) r.columns r.rows = .ok made ↔
      m.materialize (.record t) r'.columns r'.rows = .ok made := by
  have hperm := h.columns_perm
  rcases h with rfl | ⟨hnodup, hrectangular, order, horder, rfl⟩
  · exact Iff.rfl
  unfold materialize
  rw [isScalarResult_perm hperm]
  split
  · next hscalar =>
      have hlone : r.columns = [m.scalarColumn] := eq_of_beq hscalar
      rw [hlone] at horder
      have hfirst := firstCell_arranged (List.perm_singleton.mp horder) r.rows
      show _ ↔ Except.ok (Materialized.scalar (firstCell (r.rows.map _))) = _
      rw [hfirst]
  · unfold items records
    simp only [map_eq_ok_iff, bind_eq_ok_iff]
    have hchecked : ∀ u, m.checkRecords t r.columns = .ok u ↔
        m.checkRecords t (r.arranged order).columns = .ok u := fun u => (checkRecords_perm hperm).symm
    have hrecords : (r.arranged order).rows.mapM (m.record t (r.arranged order).columns) =
        r.rows.mapM (m.record t r.columns) := mapM_record_arranged hnodup horder hrectangular
    simp only [hchecked, hrecords]

end SheetQuery.Materializer
